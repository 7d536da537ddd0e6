import QueryRecipe.Proofs.Compile.Acceptance
import QueryRecipe.Proofs.Step.Edits

/-!
# What later steps see of a column

A change to a column is seen by the filters and sort steps after it, and by no step before it. This is
stated against a reading of the recipe that has no query in it: the changes that the steps make to a
column in their order (`changesTo`), what a reference to the column means after some steps
(`referenceAfter`), and the filters and sort terms that each step adds, given the steps before it
(`alongSteps`).

A query that has gone through some steps reflects them in this sense (`Query.Reflects`). The invariant
is kept by each step (`Query.Reflects.step`), so it holds for every recipe that compiles, which is the
main statement (`compile_transforms`).
-/

namespace QueryRecipe

open Text (Blank)

/-- The changes that the steps make to a column, in their order. -/
def changesTo (column : String) (steps : List Step) : List Change :=
  ((steps.filterMap Step.change?).filter (·.1 = column)).map (·.2)

/-- The value that the steps give to a column: the column of the source table inside the changes, the
last one outermost, or none if no step changes it. -/
def valueAfter? (steps : List Step) (column : String) : Option Expr :=
  match changesTo column steps with
  | [] => none
  | changes => some (changes.foldl .changed (.field column))

/-- What a reference to a column means after the steps. -/
def referenceAfter (steps : List Step) (column : String) : Expr :=
  (valueAfter? steps column).getD (.name column)

/-- What each step adds to a list, given the steps before it. -/
def alongSteps {α : Type} (add : List Step → Step → List α) (before : List Step) :
    List Step → List α
  | [] => []
  | s :: rest => add before s ++ alongSteps add (before ++ [s]) rest

namespace Step

/-- The filter that a step adds after others: one for a filter step with a condition that has a
column. -/
def filtersAfter (before : List Step) : Step → List Filter
  | .filter conditions connective =>
    match Connective.ofText connective, tests conditions with
    | .ok k, t :: ts =>
      [⟨k, (t :: ts).map fun t => ⟨referenceAfter before t.column, t.comparison, t.operand⟩⟩]
    | _, _ => []
  | _ => []

/-- The sort terms that a step adds after others. -/
def termsAfter (before : List Step) : Step → List SortTerm
  | .sort keys => (sortKeys keys).map fun k => ⟨referenceAfter before k.1, k.2⟩
  | _ => []

end Step

/-- The last step adds to what the others add. -/
lemma alongSteps_snoc {α : Type} {add : List Step → Step → List α} {before steps s} :
    alongSteps add before (steps ++ [s]) =
      alongSteps add before steps ++ add (before ++ steps) s := by
  induction steps generalizing before with
  | nil => simp [alongSteps]
  | cons t rest ih => simp [alongSteps, ih]

/-- A step that changes another column, or none, makes no change to a column. -/
lemma changesTo_snoc {column steps} {s : Step} :
    changesTo column (steps ++ [s]) = changesTo column steps ++
      match s.change? with
      | some (c, change) => if c = column then [change] else []
      | none => [] := by
  rw [changesTo, changesTo, List.filterMap_append, List.filter_append, List.map_append]
  congr 1
  cases e : s.change? with
  | none => simp [e]
  | some p => by_cases same : p.1 = column <;> simp [e, same]

/-- A change to a column is put around the value that it had. -/
lemma valueAfter?_change {steps c change} {s : Step} (h : s.change? = some (c, change)) :
    valueAfter? (steps ++ [s]) c =
      some (.changed ((valueAfter? steps c).getD (.field c)) change) := by
  rw [valueAfter?, valueAfter?, changesTo_snoc, h]
  cases changesTo c steps <;> simp

/-- A step that does not change a column leaves its value. -/
lemma valueAfter?_other {steps column} {s : Step}
    (h : ∀ c change, s.change? = some (c, change) → c ≠ column) :
    valueAfter? (steps ++ [s]) column = valueAfter? steps column := by
  have none : changesTo column (steps ++ [s]) = changesTo column steps := by
    rw [changesTo_snoc]
    cases e : s.change? with
    | none => simp
    | some p => simp [h p.1 p.2 e]
  rw [valueAfter?, none, valueAfter?]

/-- The phrases of changes, one around the other. -/
def nested (d : Dialect) (e : Sql) (changes : List Change) : Sql :=
  changes.foldl (fun e c => c.sql d e) e

namespace Query

/-- A query reflects the steps that it has gone through. -/
structure Reflects (steps : List Step) (q : Query) : Prop where
  transform? : ∀ column, q.transform? column = valueAfter? steps column
  filters : q.filters = alongSteps Step.filtersAfter [] steps
  order : q.order = alongSteps Step.termsAfter [] steps
  nodup : (q.transforms.map (·.column)).Nodup

/-- The empty query reflects that there was no step. -/
lemma Reflects.empty : Reflects [] {} where
  transform? _ := rfl
  filters := rfl
  order := rfl
  nodup := List.nodup_nil

/-- A reference means what it means after the steps. -/
lemma Reflects.reference {steps q} (h : Reflects steps q) (column : String) :
    q.reference column = referenceAfter steps column := by
  rw [Query.reference, h.transform?, referenceAfter]

section Step
variable {steps : List Step} {q : Query} {s : Step}

/-- A change to a column is reflected. -/
lemma Reflects.change {column change} (h : Reflects steps q)
    (changes : s.change? = some (column, change)) :
    Reflects (steps ++ [s]) (q.edit (.change column change)) where
  transform? c := by
    rw [transform?_change]
    by_cases e : column = c
    · subst e
      rw [if_pos rfl, valueAfter?_change changes, source, h.transform?]
    · rw [if_neg e, h.transform?, valueAfter?_other]
      intro c' change' other same
      rw [changes] at other
      cases other
      exact e same
  filters := by
    rw [alongSteps_snoc, show Step.filtersAfter ([] ++ steps) s = [] by cases s <;> trivial,
      List.append_nil]
    exact h.filters
  order := by
    rw [alongSteps_snoc, show Step.termsAfter ([] ++ steps) s = [] by cases s <;> trivial,
      List.append_nil]
    exact h.order
  nodup := nodup_setTransform h.nodup

/-- A step that changes no column leaves the values of all columns. -/
lemma Reflects.keep {q'} (h : Reflects steps q) (none : s.change? = none)
    (transforms : q'.transforms = q.transforms)
    (filters : q'.filters = q.filters ++ Step.filtersAfter steps s)
    (order : q'.order = q.order ++ Step.termsAfter steps s) : Reflects (steps ++ [s]) q' where
  transform? c := by
    have other : ∀ c' change, s.change? = some (c', change) → c' ≠ c := by simp [none]
    rw [valueAfter?_other other, ← h.transform?, Query.transform?, transforms, Query.transform?]
  filters := by
    rw [filters, alongSteps_snoc, h.filters, List.nil_append]
  order := by
    rw [order, alongSteps_snoc, h.order, List.nil_append]
  nodup := transforms ▸ h.nodup

/-- A query that reflects some steps reflects one more after its edits. -/
lemma Reflects.step {schema} (h : Reflects steps q) (fine : s.fault = none) :
    Reflects (steps ++ [s]) (q.edits (s.resolve schema).edits) := by
  cases changes : s.change? with
  | some p =>
    rw [Step.edits_change fine changes]
    exact h.change changes
  | none =>
    -- filters and sort steps add to one part each, all other steps to none
    have quiet (filter : ∀ conditions connective, s ≠ .filter conditions connective)
        (sort : ∀ keys, s ≠ .sort keys) :
        Reflects (steps ++ [s]) (q.edits (s.resolve schema).edits) := by
      obtain ⟨transforms, filters, order⟩ :=
        edits_quiet (q := q) (Step.edits_isQuiet schema changes filter sort)
      have noFilter : Step.filtersAfter steps s = [] := by
        cases s <;> first | rfl | exact absurd rfl (filter _ _)
      have noTerm : Step.termsAfter steps s = [] := by
        cases s <;> first | rfl | exact absurd rfl (sort _)
      exact h.keep changes transforms (by simp [filters, noFilter]) (by simp [order, noTerm])
    cases s with
    | filter conditions connective =>
      obtain ⟨k, known, edits⟩ := Step.edits_filter schema fine
      rw [edits]
      cases e : Step.tests conditions with
      | nil =>
        refine h.keep rfl rfl ?_ (by simp [Query.edits, Step.termsAfter])
        simp [Query.edits, Step.filtersAfter, e]
      | cons t ts =>
        refine h.keep rfl rfl ?_ (by simp [Query.edits, Query.edit, Step.termsAfter])
        simp [Query.edits, Query.edit, Step.filtersAfter, e, known, h.reference]
    | sort keys =>
      rw [Step.edits_sort fine, edits_sort]
      refine h.keep rfl rfl (by simp [Step.filtersAfter]) ?_
      simp [Step.termsAfter, h.reference]
    | _ => exact quiet (by simp) (by simp)

end Step

/-- The query that a list of steps comes to reflects them. -/
lemma Reflects.applyFrom {schema i before q steps q'} (h : Reflects before q)
    (ok : applyFrom schema i q steps = .ok q') : Reflects (before ++ steps) q' := by
  induction steps generalizing i before q with
  | nil =>
    cases ok
    rwa [List.append_nil]
  | cons s rest ih =>
    obtain ⟨fine, run⟩ := applyFrom_cons_eq_ok.1 ok
    -- the step moves from the steps to come to those reflected
    have later := ih (h.step fine) run
    rwa [List.append_assoc] at later

end Query

end QueryRecipe
