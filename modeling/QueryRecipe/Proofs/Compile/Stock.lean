import QueryRecipe.Proofs.Compile.Acceptance
import QueryRecipe.Proofs.Query.Stock
import QueryRecipe.Proofs.Step.Within

/-!
# What a recipe is made of

What each step brings into a query: the columns that it refers to, the change that it makes, the operands
of its conditions, and for a join the alias of the table and the columns that are listed. The query that
steps lead to is made from these (`Query.applyFrom_from`).
-/

namespace QueryRecipe

namespace Step

/-- The columns that a step refers to, as it refers to them. -/
def columns : Step → List String
  | .select columns | .reorder columns | .deduplicate columns => Text.nonblanks columns
  | .cast column _ | .replace column _ _ _ | .trim column _ | .recase column _
  | .fillNull column _ _ => [Text.trim column]
  | .filter conditions _ => conditions.map (·.column)
  | .sort keys => keys.map (·.column)
  | .groupBy columns aggregations => Text.nonblanks columns ++ aggregations.map (·.subject)
  | _ => []

/-- The conditions of a step. -/
def conditions : Step → List FilterCondition
  | .filter conditions _ => conditions
  | _ => []

/-- The alias under which a step joins a table after `n` joins, and the columns of that table that it
lists. -/
def joined? (n : ℕ) : Step → Option (String × List String)
  | .join _ _ _ label _ columns =>
    some ((givenWord? label).getD ("j" ++ Text.naturalText (n + 1)), Text.nonblanks columns)
  | _ => none

end Step

/-- The aliases of the tables that steps join after `n` joins, each with the columns that are listed. -/
def joinedFrom (n : ℕ) : List Step → List (String × List String)
  | [] => []
  | s :: rest =>
    match s.joined? n with
    | some j => j :: joinedFrom (n + 1) rest
    | none => joinedFrom n rest

/-- The aliases of the tables that a recipe joins. -/
def joinAliases (steps : List Step) : List String :=
  (joinedFrom 0 steps).map (·.1)

/-- There is one alias for each join. -/
lemma length_joinedFrom {n : ℕ} {steps : List Step} :
    (joinedFrom n steps).length = steps.countP Step.isJoin := by
  induction steps generalizing n with
  | nil => rfl
  | cons s rest ih =>
    cases s with
    | join =>
      rw [List.countP_cons_of_pos rfl, ← ih]
      rfl
    | _ => exact ih

/-- Whether the columns of a step, the change that it makes and the operands of its conditions are in a
stock. -/
structure Stock.Covers (S : Stock) (s : Step) : Prop where
  columns : ∀ c ∈ s.columns, S.column c
  change : ∀ e ∈ s.change?, S.change e.2
  operands : ∀ c ∈ s.conditions, ∀ comparison,
    Comparison.ofText (c.comparison.getD "") = .ok comparison → S.operand comparison c.operand

namespace Step

section Edits
variable {S : Stock} {schema : String} {s : Step}

/-- Only joins bring in an alias. -/
lemma joined?_eq_none {n} : s.joined? n = none ↔ s.isJoin = false := by
  cases s <;> simp [joined?, isJoin]

/-- The column of an aggregate is the one that it is asked for. -/
lemma column_of_resolved {a : Aggregation} {c : AggregateColumn}
    (h : resolveAggregation a = .ok c) : c.column = a.subject := by
  obtain ⟨f, -, h⟩ := bind_eq_ok.1 h
  rw [Aggregation.subject]
  split at h
  next t present =>
    cases h
    rw [present, Option.getD_some]
  next absent =>
    rw [absent]
    split at h
    next =>
      cases h
      rfl
    next => cases h

/-- A step changes one of its columns. -/
lemma mem_columns_of_change {e : String × Change} (made : s.change? = some e) : e.1 ∈ s.columns := by
  cases s with
  | cast | replace | trim | fillNull =>
    cases made
    exact List.mem_singleton_self _
  | recase column mode =>
    obtain ⟨mode, -, ⟨⟩⟩ := Option.map_eq_some_iff.1 made
    exact List.mem_singleton_self _
  | _ => cases made

/-- A step that joins no table brings in what it has itself. -/
lemma edits_from (none : s.isJoin = false) (h : S.Covers s) :
    ∀ e ∈ (s.resolve schema).edits, ∀ q, e.From S q := by
  intro e mem q
  have columns := h.columns
  cases asks_of_mem mem with
  | select | reorder => exact columns
  | rename | addColumn | dropColumn | limit | union => trivial
  | change made => exact ⟨columns _ (mem_columns_of_change made), h.change _ made⟩
  | filter =>
    intro t mem
    obtain ⟨c, listed, comparison, known, rfl⟩ := mem_tests mem
    exact ⟨columns _ (List.mem_map.2 ⟨c, listed, rfl⟩), h.operands c listed comparison known⟩
  | sort listed => exact columns _ (List.mem_map_of_mem listed)
  | rows => nofun
  | deduplicate =>
    rintro _ ⟨⟩
    exact columns
  | join => cases none
  | groupBy made =>
    obtain ⟨columns, aggregations⟩ := List.forall_mem_append.1 columns
    refine ⟨columns, fun a mem => ?_⟩
    obtain ⟨asked, listed, resolved⟩ := mem_of_mapM made mem
    rw [column_of_resolved resolved]
    exact aggregations _ (List.mem_map_of_mem listed)

/-- A step that joins a table comes to one join, under its alias. -/
lemma edits_joined (schema : String) {n j} (fine : s.fault = none)
    (joined : s.joined? n = some j) :
    ∃ k own table label pairs, (s.resolve schema).edits = [.join k own table label pairs j.2] ∧
      j.1 = label.getD ("j" ++ Text.naturalText (n + 1)) := by
  cases s with
  | join table joinSchema kind label keys columns =>
    cases joined
    obtain ⟨k, pairs, one⟩ := edits_join schema fine
    exact ⟨k, _, _, _, pairs, one, rfl⟩
  | _ => cases joined

end Edits

end Step

namespace Query

/-- Steps that are applied to the end join their tables under their aliases, and the query is made from
what the steps bring in and the joins list. -/
lemma applyFrom_from {S : Stock} {schema i steps} {q q' : Query}
    (run : applyFrom schema i q steps = .ok q') :
    q'.joins.map (·.label) = q.joins.map (·.label) ++ (joinedFrom q.joins.length steps).map (·.1) ∧
      (q.From S → (∀ s ∈ steps, S.Covers s) →
        (∀ j ∈ joinedFrom q.joins.length steps, ∀ c ∈ j.2, S.column (j.1 ++ "." ++ c)) →
          q'.From S) := by
  induction steps generalizing i q with
  | nil =>
    cases run
    exact ⟨by simp [joinedFrom], fun h _ _ => h⟩
  | cons s rest ih =>
    obtain ⟨fine, run⟩ := applyFrom_cons_eq_ok.1 run
    obtain ⟨labels, made⟩ := ih run
    rw [joinedFrom]
    cases joined : s.joined? q.joins.length with
    | none =>
      rw [Step.joined?_eq_none] at joined
      have joins := Step.edits_joins schema fine
      rw [if_neg (by simp [joined])] at joins
      rw [joins_edits joins] at labels made
      refine ⟨labels, fun h covers listed => ?_⟩
      obtain ⟨now, later⟩ := List.forall_mem_cons.1 covers
      exact made (h.edits (Step.edits_from joined now)) later listed
    | some j =>
      obtain ⟨k, own, table, label, pairs, one, named⟩ := Step.edits_joined schema fine joined
      have joins : (q.edits (s.resolve schema).edits).joins =
          q.joins ++ [⟨k, own, table, j.1, pairs⟩] := by
        rw [one, named]
        rfl
      rw [joins, List.length_append] at labels made
      refine ⟨by simpa using labels, fun h covers listed => ?_⟩
      obtain ⟨now, later⟩ := List.forall_mem_cons.1 listed
      refine made ?_ (List.forall_mem_cons.1 covers).2 later
      rw [one]
      rw [named] at now
      exact h.edit (e := .join ..) now

/-- The aliases of a query are those of the joins among its steps, in their order. -/
lemma labels_applyFrom {schema i steps} {q q' : Query} (run : applyFrom schema i q steps = .ok q') :
    q'.joins.map (·.label) =
      q.joins.map (·.label) ++ (joinedFrom q.joins.length steps).map (·.1) :=
  (applyFrom_from (S := .whole) run).1

end Query

end QueryRecipe
