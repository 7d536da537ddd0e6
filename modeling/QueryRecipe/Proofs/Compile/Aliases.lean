import Mathlib.Data.List.Nodup
import QueryRecipe.Proofs.Compile.Confinement
import QueryRecipe.Proofs.Compile.Stock
import QueryRecipe.Proofs.Statement.Scope
import QueryRecipe.Proofs.Text.Digits

/-!
# Aliases of the joined tables

Which aliases the source of a compiled statement brings in, and when they differ. The source table is
`t`, a join takes the alias that it is given, and one without is numbered by the joins up to its own. Two
numbers are never the same, but a given alias may be the number of a join before or after it. So the
aliases are pairwise distinct exactly if the given ones are and none of them is `t` or the number of a
join without one (`compile_aliases`).
-/

namespace QueryRecipe

/-- The alias that a step gives to the table that it joins. -/
def Step.alias? : Step → Option String
  | .join _ _ _ label _ _ => givenWord? label
  | _ => none

/-- The aliases that a recipe gives to the tables that it joins. -/
def givenAliases (steps : List Step) : List String :=
  steps.filterMap Step.alias?

/-- The alias of the join with this number. -/
def numberedAlias (n : ℕ) : String :=
  "j" ++ Text.naturalText n

/-- The numbers of the joins that are given no alias, after `n` joins. -/
def unnamedFrom (n : ℕ) : List Step → List ℕ
  | [] => []
  | s :: rest =>
    if s.isJoin then (if s.alias? = none then [n + 1] else []) ++ unnamedFrom (n + 1) rest
    else unnamedFrom n rest

section Numbered

/-- Joins with different numbers have different aliases. -/
lemma numberedAlias_injective : Function.Injective numberedAlias := by
  intro n m same
  apply Text.naturalText_injective
  exact (String.append_right_inj "j").1 same

/-- The alias of a join is not that of the source table. -/
lemma numberedAlias_ne {n : ℕ} : numberedAlias n ≠ "t" := by
  intro same
  have letters := congrArg (fun s : String => s.toList.head?) same
  simp [numberedAlias] at letters

end Numbered

section Unnamed
variable {n m : ℕ} {steps : List Step}

/-- The joins after `n` joins have greater numbers. -/
lemma lt_of_mem_unnamedFrom (mem : m ∈ unnamedFrom n steps) : n < m := by
  induction steps generalizing n with
  | nil => cases mem
  | cons s rest ih =>
    rw [unnamedFrom] at mem
    split at mem
    · cases List.mem_append.1 mem with
      | inl own =>
        split at own
        · cases List.mem_singleton.1 own
          exact Nat.lt_succ_self n
        · cases own
      | inr later => exact Nat.lt_of_succ_lt (ih later)
    · exact ih mem

/-- A later join has a greater number. -/
lemma nodup_unnamedFrom : (unnamedFrom n steps).Nodup := by
  induction steps generalizing n with
  | nil => exact List.nodup_nil
  | cons s rest ih =>
    rw [unnamedFrom]
    split
    · split
      · rw [List.singleton_append, List.nodup_cons]
        refine ⟨fun mem => ?_, ih⟩
        exact absurd (lt_of_mem_unnamedFrom mem) (Nat.lt_irrefl _)
      · exact ih
    · exact ih

/-- A number belongs to a join without an alias if one stands there, counted from the start. -/
lemma mem_unnamedFrom : m ∈ unnamedFrom n steps ↔
    ∃ (pre : List Step) (s : Step) (post : List Step), steps = pre ++ s :: post ∧ s.isJoin = true ∧
      s.alias? = none ∧ m = n + pre.countP Step.isJoin + 1 := by
  induction steps generalizing n with
  | nil => simp [unnamedFrom]
  | cons s rest ih =>
    -- a join of the rest has the same number after `s`
    have split : (∃ (pre : List Step) (s' : Step) (post : List Step), s :: rest = pre ++ s' :: post ∧
        s'.isJoin = true ∧ s'.alias? = none ∧ m = n + pre.countP Step.isJoin + 1) ↔
        (s.isJoin = true ∧ s.alias? = none ∧ m = n + 1) ∨
          ∃ (pre : List Step) (s' : Step) (post : List Step), rest = pre ++ s' :: post ∧
            s'.isJoin = true ∧ s'.alias? = none ∧ m = n + (s :: pre).countP Step.isJoin + 1 := by
      constructor
      · rintro ⟨pre, s', post, whole, joins, unnamed, number⟩
        cases pre with
        | nil =>
          cases whole
          exact .inl ⟨joins, unnamed, number⟩
        | cons p pre =>
          cases whole
          exact .inr ⟨pre, s', post, rfl, joins, unnamed, number⟩
      · rintro (⟨joins, unnamed, number⟩ | ⟨pre, s', post, rfl, joins, unnamed, number⟩)
        · exact ⟨[], s, rest, rfl, joins, unnamed, number⟩
        · exact ⟨s :: pre, s', post, rfl, joins, unnamed, number⟩
    rw [split, unnamedFrom]
    cases joins : s.isJoin with
    | true =>
      have number (pre : List Step) :
          n + (s :: pre).countP Step.isJoin + 1 = n + 1 + pre.countP Step.isJoin + 1 := by
        rw [List.countP_cons_of_pos joins]
        omega
      simp only [number, if_true, List.mem_append, ih, true_and]
      refine or_congr ?_ Iff.rfl
      cases unnamed : s.alias? <;> simp
    | false =>
      simp [ih, joins]

/-- The aliases made for the joins without one are their numbers. -/
lemma isJoinAlias_iff {x : String} :
    IsJoinAlias steps x ↔ ∃ m ∈ unnamedFrom 0 steps, x = numberedAlias m := by
  simp only [mem_unnamedFrom, Nat.zero_add]
  constructor
  · rintro ⟨pre, table, schema, kind, label, keys, columns, post, whole, unnamed, rfl⟩
    exact ⟨_, ⟨pre, _, post, whole, rfl, unnamed, rfl⟩, rfl⟩
  · rintro ⟨_, ⟨pre, s, post, whole, joins, unnamed, rfl⟩, rfl⟩
    cases s with
    | join table schema kind label keys columns =>
      exact ⟨pre, table, schema, kind, label, keys, columns, post, whole, unnamed, rfl⟩
    | _ => cases joins

end Unnamed

section Aliases
variable {n : ℕ} {steps : List Step}

/-- The aliases of the joined tables are the given ones and the numbers. -/
lemma aliases_perm : ((joinedFrom n steps).map (·.1)).Perm
    (givenAliases steps ++ (unnamedFrom n steps).map numberedAlias) := by
  induction steps generalizing n with
  | nil => exact .refl _
  | cons s rest ih =>
    cases s with
    | join table schema kind label keys columns =>
      cases given : givenWord? label with
      | some l =>
        have own : (Step.join table schema kind label keys columns).alias? = some l := given
        simp only [joinedFrom, Step.joined?, given, Option.getD_some, List.map_cons, givenAliases,
          List.filterMap_cons_some own, unnamedFrom, Step.isJoin, own, if_true, reduceCtorEq, if_false]
        exact ih.cons l
      | none =>
        have own : (Step.join table schema kind label keys columns).alias? = none := given
        simp only [joinedFrom, Step.joined?, given, Option.getD_none, List.map_cons, givenAliases,
          List.filterMap_cons_none own, unnamedFrom, Step.isJoin, own, if_true, List.singleton_append]
        exact (ih.cons (numberedAlias (n + 1))).trans List.perm_middle.symm
    | _ => exact ih

/-- The aliases of a statement differ exactly if those that are given differ from each other, from `t`
and from the numbers. -/
lemma nodup_aliases : ("t" :: joinAliases steps).Nodup ↔
    (givenAliases steps).Nodup ∧ "t" ∉ givenAliases steps ∧
      ∀ x ∈ givenAliases steps, ¬ IsJoinAlias steps x := by
  have numbered : ((unnamedFrom 0 steps).map numberedAlias).Nodup :=
    List.Nodup.map numberedAlias_injective nodup_unnamedFrom
  have source : "t" ∉ (unnamedFrom 0 steps).map numberedAlias := by
    intro mem
    obtain ⟨m, -, same⟩ := List.mem_map.1 mem
    exact numberedAlias_ne same
  have apart : List.Disjoint (givenAliases steps) ((unnamedFrom 0 steps).map numberedAlias) ↔
      ∀ x ∈ givenAliases steps, ¬ IsJoinAlias steps x := by
    simp only [List.Disjoint, List.mem_map, isJoinAlias_iff, eq_comm]
  have perm : (joinAliases steps).Perm _ := aliases_perm
  rw [List.nodup_cons, perm.nodup_iff, perm.mem_iff, List.nodup_append', List.mem_append, apart]
  tauto

end Aliases

/-- The vocabulary of all names, strings and functions. -/
def Vocabulary.all : Vocabulary where
  name _ := True
  string _ := True
  function _ := True

/-- The source of the first SELECT brings in `t` and the aliases of the joins, whatever expressions
stand elsewhere in the statement. -/
lemma Statement.aliases?_primary {d : Dialect} (s : Statement) :
    (s.primary d).aliases? d = some ("t" :: s.joins.map (·.label)) := by
  have joins : ∀ j ∈ s.joins, j.Within .all := fun j _ =>
    ⟨trivial, trivial, trivial, fun _ _ => ⟨fun _ _ => trivial, fun _ _ => trivial⟩⟩
  have fits : (s.primary d).source.Fits .all := by
    apply Sql.Fits.append
    · exact fits_fromSql trivial trivial
    · exact .allJoins joins
    · exact .flatMap fun j => by simp [Sql.Leads]
  exact aliases?_eq fits binds_primary

/-- The source of the first SELECT of a compiled statement brings in `t` and one alias for each join. They
are pairwise distinct exactly if the aliases that the recipe gives are and none of them is `t` or the
number of a join that is given none. -/
theorem compile_aliases (d : Dialect) (table schema : String) (steps : List Step) (page : Page)
    (known : Option (List String)) (sql : Sql)
    (compiled : compile d table schema steps page known = .ok sql) :
    ∃ q, Query.ofSteps (Text.trim schema) steps = .ok q ∧
      let s := q.statement d ⟨Text.trim schema, Text.trim table⟩ page known
      sql = s.sql d ∧ (s.primary d).aliases? d = some ("t" :: joinAliases steps) ∧
        (joinAliases steps).length = steps.countP Step.isJoin ∧
        (("t" :: joinAliases steps).Nodup ↔
          (givenAliases steps).Nodup ∧ "t" ∉ givenAliases steps ∧
            ∀ x ∈ givenAliases steps, ¬ IsJoinAlias steps x) := by
  obtain ⟨q, run, rfl⟩ := compile_eq_ok compiled
  have joins : q.joins.map (·.label) = joinAliases steps :=
    Query.labels_applyFrom run
  refine ⟨q, run, rfl, ?_, ?_, nodup_aliases⟩
  · exact joins ▸ Statement.aliases?_primary _
  · rw [joinAliases, List.length_map]
    exact length_joinedFrom

/-- A given alias may look like a number as long as no join without one has it. -/
theorem compile_aliases_mixed :
    let steps : List Step := [.join "sizes" none none none [⟨"size", "id"⟩] [],
      .join "kinds" none none (some " j3 ") [⟨"kind", "id"⟩] [], .addColumn (some "one") (some "1")]
    ∃ q, Query.ofSteps "" steps = .ok q ∧
      let s := q.statement .mysql ⟨"", "orders"⟩ {} none
      compile .mysql "orders" "" steps {} none = .ok (s.sql .mysql) ∧
        (s.primary .mysql).aliases? .mysql = some ["t", "j1", "j3"] ∧ ["t", "j1", "j3"].Nodup := by
  intro steps
  have compiles : (compile .mysql "orders" "" steps {} none).isOk = true := by decide
  cases e : compile .mysql "orders" "" steps {} none with
  | error fault =>
    rw [e] at compiles
    cases compiles
  | ok sql =>
    obtain ⟨q, run, rfl, bound, -⟩ := compile_aliases .mysql "orders" "" steps {} none sql e
    exact ⟨q, run, rfl, bound, by decide⟩

/-- A join that is given the number of the next join shares its alias with it. -/
theorem compile_aliases_collide :
    let steps : List Step := [.join "sizes" none none (some "j2") [⟨"size", "id"⟩] [],
      .join "kinds" none none none [⟨"kind", "id"⟩] []]
    (givenAliases steps).Nodup ∧ "t" ∉ givenAliases steps ∧
      ∃ q, Query.ofSteps "" steps = .ok q ∧
        let s := q.statement .postgres ⟨"", "orders"⟩ {} none
        compile .postgres "orders" "" steps {} none = .ok (s.sql .postgres) ∧
          (s.primary .postgres).aliases? .postgres = some ["t", "j2", "j2"] ∧
          ¬ ["t", "j2", "j2"].Nodup := by
  intro steps
  have read : ((Query.ofSteps "" steps).toOption.any fun q =>
      ((q.statement .postgres ⟨"", "orders"⟩ {} none).primary .postgres).aliases? .postgres =
        some ["t", "j2", "j2"]) = true := by decide +kernel
  have present : Text.nonblank? "orders" = some "orders" := by decide
  have trimmed : Text.trim "" = "" := by decide
  obtain ⟨q, run, read⟩ := Option.any_eq_true _ _ |>.1 read
  rw [toOption_eq_some] at run
  refine ⟨by decide, by decide +kernel, q, run, ?_, of_decide_eq_true read, by decide⟩
  simp only [compile, present, trimmed, run]
  rfl

end QueryRecipe
