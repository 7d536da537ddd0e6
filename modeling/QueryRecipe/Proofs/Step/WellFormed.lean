import QueryRecipe.Proofs.Results
import QueryRecipe.Proofs.Text.Blank
import QueryRecipe.Proofs.Step.Resolve

/-!
# Well-formed steps

What a step has to satisfy, kind by kind, in terms of its own fields: which names may not be blank,
which words have to be known, and which expressions have to pass the screening. A filter condition or
sort key without a column is passed over, whatever else it says; so are the keys of a cross join, and
a blank expression of a replacement.

Resolving a step finds no fault with it if and only if it is well formed (`fault_eq_none_iff`), and what
is wrong with a step does not depend on the schema of the recipe (`resolve_fault`).
-/

namespace QueryRecipe

open Text (Blank)

/-- Whether screening accepts an expression. -/
def Accepted (e : String) : Prop :=
  ∃ t, screen e = .ok t

/-- Whether a text is given and not blank. -/
def Present (s : Option String) : Prop :=
  ∃ t, s = some t ∧ ¬ Blank t

/-- Whether there are a known function and its column, which only counting may leave out. -/
def Aggregation.WellFormed (a : Aggregation) : Prop :=
  ∃ f, Aggregate.ofText a.function = .ok f ∧ (f = .count ∨ ¬ Blank a.column)

/-- What a step has to satisfy. -/
def Step.WellFormed : Step → Prop
  | .select columns => ∃ c ∈ columns, ¬ Blank c
  | .rename mapping => ∀ e ∈ mapping.entries, ¬ Blank e.1 ∧ ¬ Blank e.2
  | .reorder _ | .dropColumn _ | .deduplicate _ | .limit .. => True
  | .cast column dataType => ¬ Blank column ∧ Accepted dataType
  | .addColumn name expression => Present name ∧ ∃ e, expression = some e ∧ Accepted e
  | .filter conditions connective =>
    (∃ k, Connective.ofText connective = .ok k) ∧
      ∀ c ∈ conditions, ¬ Blank c.column → ∃ o, Comparison.ofText (c.comparison.getD "") = .ok o
  | .sort keys => ∀ k ∈ keys, ¬ Blank k.column → ∃ o, Direction.ofText k.direction = .ok o
  | .replace column _ _ expression =>
    ¬ Blank column ∧ ∀ e, expression = some e → ¬ Blank e → Accepted e
  | .trim column _ | .fillNull column _ _ => ¬ Blank column
  | .recase column mode => ¬ Blank column ∧ mode ≠ none
  | .join table _ kind _ keys _ =>
    ¬ Blank table ∧ ∃ k, JoinKind.ofText kind = .ok k ∧
      (k = .cross ∨ keys ≠ [] ∧ ∀ key ∈ keys, ¬ Blank key.left ∧ ¬ Blank key.right)
  | .union table _ _ => ¬ Blank table
  | .groupBy columns aggregations =>
    (∀ a ∈ aggregations, a.WellFormed) ∧ ((∃ c ∈ columns, ¬ Blank c) ∨ aggregations ≠ [])

/-- What is wrong with a step; the schema of the recipe plays no part in it. -/
def Step.fault (s : Step) : Option StepFault :=
  (s.resolve "").fault

/-- What screening accepts is not blank. -/
lemma Accepted.notBlank {e} (h : Accepted e) : ¬ Blank e := by
  obtain ⟨t, ok⟩ := h
  obtain ⟨rfl, fine⟩ := screen_eq_ok_iff.1 ok
  intro blank
  rw [Text.trim_eq_empty_iff.2 blank] at fine
  simp [Screening.flaw?] at fine

namespace Resolution

/-- A step that counts as a whole has no fault exactly if it can be resolved. -/
lemma whole_fault {x : Except StepFault (List Edit)} : (whole x).fault = none ↔ Succeeds x := by
  cases x <;> simp [whole]

/-- Computations that go wrong together after the same start go wrong together. -/
lemma whole_bind_fault {α : Type} {x : Except StepFault α} {f g : α → Except StepFault (List Edit)}
    (h : ∀ a, (whole (f a)).fault = (whole (g a)).fault) :
    (whole (x >>= f)).fault = (whole (x >>= g)).fault := by
  cases x with
  | error e => rfl
  | ok a => exact h a

/-- A step that is resolved entry by entry has no fault exactly if no entry has one. -/
lemma each_fault {α : Type} {resolve : α → Except StepFault (List Edit)} {l : List α} :
    (each resolve l).fault = none ↔ ∀ a ∈ l, Succeeds (resolve a) := by
  induction l with
  | nil => simp [each]
  | cons a l ih =>
    rw [each, List.forall_mem_cons, ← ih]
    cases resolve a <;> simp

end Resolution

namespace Step

/-- A checked word is known to the step if it is known. -/
@[simp]
lemma checked_eq_ok {α : Type} {x : Except Rejection α} {a : α} : checked x = .ok a ↔ x = .ok a := by
  cases x <;> simp [checked]

/-- A checked text is accepted exactly if its check succeeds. -/
@[simp]
lemma succeeds_checked {α : Type} {x : Except Rejection α} : Succeeds (checked x) ↔ Succeeds x := by
  simp [Succeeds]

/-- What a step must have is there unless it is blank. -/
@[simp]
lemma succeeds_needed {d s} : Succeeds (needed d s) ↔ ¬ Blank s := by
  rw [← Text.nonblank?_isSome, needed]
  cases Text.nonblank? s <;> simp

/-- Screening succeeds exactly on accepted texts. -/
@[simp]
lemma succeeds_screen {s} : Succeeds (screen s) ↔ Accepted s := Iff.rfl

/-- Screening trims what it is given. -/
@[simp]
lemma accepted_trim {s} : Accepted (Text.trim s) ↔ Accepted s := by
  simp [Accepted, screen_eq_ok_iff]

/-- A text that is given comes trimmed. -/
lemma givenWord?_eq_some_iff {s t} :
    givenWord? s = some t ↔ ∃ u, s = some u ∧ t = Text.trim u ∧ ¬ Blank u := by
  cases s with
  | none => simp [givenWord?]
  | some u =>
    rw [givenWord?, Option.bind_some, Text.nonblank?_eq_some_iff]
    constructor
    · rintro ⟨rfl, ne⟩
      exact ⟨u, rfl, rfl, fun blank => ne (Text.trim_eq_empty_iff.2 blank)⟩
    · rintro ⟨_, ⟨⟩, rfl, ne⟩
      exact ⟨rfl, fun e => ne (Text.trim_eq_empty_iff.1 e)⟩

/-- A text is given exactly if it is present. -/
lemma givenWord?_isSome {s} : (∃ t, givenWord? s = some t) ↔ Present s := by
  simp only [givenWord?_eq_some_iff, Present]
  constructor
  · rintro ⟨_, u, rfl, -, present⟩
    exact ⟨u, rfl, present⟩
  · rintro ⟨u, rfl, present⟩
    exact ⟨_, u, rfl, rfl, present⟩

/-- A text that is left out although it is there is blank. -/
lemma blank_of_givenWord? {u} (h : givenWord? (some u) = none) : Blank u := by
  by_contra present
  obtain ⟨t, e⟩ := givenWord?_isSome.2 ⟨u, rfl, present⟩
  rw [h] at e
  cases e

/-- A change needs a column and a change to make. -/
lemma succeeds_changing {column change} :
    Succeeds (changing column change) ↔ ¬ Blank column ∧ Succeeds change := by
  rw [changing, ← succeeds_needed (d := .noColumn)]
  exact succeeds_bind_iff fun _ _ => succeeds_bind_pure

/-- A pair of names needs both. -/
lemma succeeds_pair {α : Type} {d a b} {f : String → String → α} :
    Succeeds (do return f (← needed d a) (← needed d b)) ↔ ¬ Blank a ∧ ¬ Blank b := by
  rw [← succeeds_needed (d := d), ← succeeds_needed (d := d)]
  exact succeeds_bind_iff fun _ _ => succeeds_bind_pure

/-- A sort key that is not passed over needs a direction. -/
lemma succeeds_sortKey {key : SortKey} : Succeeds (resolveSortKey key) ↔
    (¬ Blank key.column → Succeeds (Direction.ofText key.direction)) := by
  rw [← Text.nonblank?_isSome, resolveSortKey]
  cases Text.nonblank? key.column with
  | none => simp
  | some t => simp

/-- A filter condition that is not passed over needs a comparison. -/
lemma succeeds_tests {conditions : List FilterCondition} : Succeeds (resolveTests conditions) ↔
    ∀ c ∈ conditions, ¬ Blank c.column → Succeeds (Comparison.ofText (c.comparison.getD "")) := by
  induction conditions with
  | nil => simp [resolveTests]
  | cons c rest ih =>
    rw [List.forall_mem_cons, ← ih, ← Text.nonblank?_isSome, resolveTests]
    cases Text.nonblank? c.column with
    | none => simp
    | some t =>
      simp only [Option.some.injEq, exists_eq', forall_const]
      rw [← succeeds_checked]
      exact succeeds_bind_iff fun _ _ => succeeds_bind_pure

/-- An aggregate is resolved exactly if it is well formed. -/
lemma succeeds_aggregation {a : Aggregation} : Succeeds (resolveAggregation a) ↔ a.WellFormed := by
  rw [resolveAggregation, succeeds_bind]
  refine exists_congr fun f => ?_
  rw [checked_eq_ok, ← Text.nonblank?_isSome]
  refine and_congr_right fun _ => ?_
  cases Text.nonblank? a.column with
  | some t => simp
  | none =>
    by_cases count : f = .count
    · simp [count]
    · simp [count]

/-- A grouping needs well-formed aggregates, and a column or an aggregate. -/
lemma succeeds_groupBy {columns : List String} {aggregations : List Aggregation} :
    Succeeds (resolveGroupBy columns aggregations) ↔
      (∀ a ∈ aggregations, a.WellFormed) ∧ ((∃ c ∈ columns, ¬ Blank c) ∨ aggregations ≠ []) := by
  simp only [← succeeds_aggregation, ← succeeds_mapM]
  refine succeeds_bind_iff fun aggregates e => ?_
  rw [← Text.nonblanks_ne_nil_iff, ← not_and_or, ← mapM_eq_nil e]
  split
  next h => simp [h]
  next h => simp [h]

/-- A computed column needs a name and an expression that screening accepts. -/
lemma succeeds_addColumn {name expression : Option String} :
    Succeeds (resolveAddColumn name expression) ↔
      Present name ∧ ∃ e, expression = some e ∧ Accepted e := by
  rw [← givenWord?_isSome, resolveAddColumn]
  cases givenWord? name with
  | none => simp
  | some n =>
    cases e : givenWord? expression with
    | none =>
      have none {u} (given : expression = some u) : ¬ Accepted u := fun accepted =>
        accepted.notBlank (blank_of_givenWord? (given ▸ e))
      simpa using fun u => none
    | some t =>
      obtain ⟨u, rfl, rfl, -⟩ := givenWord?_eq_some_iff.1 e
      simp

/-- A replacement needs an expression that screening accepts, unless it is blank or left out. -/
lemma succeeds_replacing {old : Option String} {new : Literal} {expression : Option String} :
    Succeeds (replacing old new expression) ↔
      ∀ e, expression = some e → ¬ Blank e → Accepted e := by
  cases e : givenWord? expression with
  | none =>
    have blank {u} (given : expression = some u) : Blank u := blank_of_givenWord? (given ▸ e)
    rw [replacing, e]
    refine iff_of_true (by simp) fun u given present => absurd (blank given) present
  | some t =>
    obtain ⟨u, rfl, rfl, present⟩ := givenWord?_eq_some_iff.1 e
    rw [replacing, e]
    simp [present]

/-- A join needs a known kind, a table, and keys unless it is a cross join. -/
lemma succeeds_join {schema table : String} {joinSchema kind label : Option String}
    {keys : List JoinKey} {columns : List String} :
    Succeeds (resolveJoin schema table joinSchema kind label keys columns) ↔
      ¬ Blank table ∧ ∃ k, JoinKind.ofText kind = .ok k ∧
        (k = .cross ∨ keys ≠ [] ∧ ∀ key ∈ keys, ¬ Blank key.left ∧ ¬ Blank key.right) := by
  rw [resolveJoin, succeeds_bind, ← exists_and_left]
  refine exists_congr fun k => ?_
  rw [checked_eq_ok, and_left_comm, ← succeeds_needed (d := .noTable)]
  refine and_congr_right fun _ => succeeds_bind_iff fun t _ => ?_
  by_cases cross : k = .cross
  · simp [cross]
  · by_cases none : keys = []
    · simp [cross, none]
    · have pairs : Succeeds (keys.mapM resolveJoinKey) ↔
          ∀ key ∈ keys, ¬ Blank key.left ∧ ¬ Blank key.right :=
        succeeds_mapM.trans (forall₂_congr fun _ _ => succeeds_pair)
      simp [cross, none, ← pairs]

/-- No fault is found with a step exactly if it is well formed. -/
lemma fault_eq_none_iff {s : Step} : s.fault = none ↔ s.WellFormed := by
  unfold fault WellFormed resolve
  cases s with
  | select columns =>
    show _ ↔ ∃ c ∈ columns, ¬ Blank c
    rw [← Text.nonblanks_ne_nil_iff]
    cases e : Text.nonblanks columns <;> simp [e, Resolution.whole]
  | rename mapping => exact Resolution.each_fault.trans (forall₂_congr fun _ _ => succeeds_pair)
  | reorder columns => exact Resolution.whole_fault.trans (by simp)
  | cast column dataType =>
    refine Resolution.whole_fault.trans (succeeds_changing.trans (and_congr_right' ?_))
    cases e : Text.nonblank? dataType with
    | none =>
      have blank : Blank dataType := Text.trim_eq_empty_iff.1 (Text.nonblank?_eq_none_iff.1 e)
      simpa using fun accepted : Accepted dataType => accepted.notBlank blank
    | some t => simp
  | addColumn name expression => exact Resolution.whole_fault.trans succeeds_addColumn
  | dropColumn columns => exact Resolution.whole_fault.trans (by simp)
  | filter conditions connective =>
    refine Resolution.whole_fault.trans ?_
    refine (succeeds_bind_iff fun _ _ => succeeds_bind_pure).trans ?_
    rw [succeeds_checked, succeeds_tests]
    rfl
  | sort keys => exact Resolution.each_fault.trans (forall₂_congr fun _ _ => succeeds_sortKey)
  | deduplicate columns =>
    cases e : Text.nonblanks columns <;> simp [e, Resolution.whole]
  | limit count offset => exact Resolution.whole_fault.trans (by simp)
  | replace column old new expression =>
    exact Resolution.whole_fault.trans (succeeds_changing.trans (and_congr_right' succeeds_replacing))
  | trim column side => exact Resolution.whole_fault.trans (succeeds_changing.trans (by simp))
  | recase column mode =>
    refine Resolution.whole_fault.trans (succeeds_changing.trans (and_congr_right' ?_))
    cases mode <;> simp
  | fillNull column value emptyToo =>
    exact Resolution.whole_fault.trans (succeeds_changing.trans (by simp))
  | join table schema kind label keys columns => exact Resolution.whole_fault.trans succeeds_join
  | union table schema all =>
    exact Resolution.whole_fault.trans (succeeds_bind_pure.trans succeeds_needed)
  | groupBy columns aggregations => exact Resolution.whole_fault.trans succeeds_groupBy

/-- What is wrong with a step does not depend on the schema of the recipe. -/
lemma resolve_fault (schema : String) (s : Step) : (s.resolve schema).fault = s.fault := by
  -- only joins and unions name a schema, and only after all that can go wrong
  cases s with
  | join table joinSchema kind label keys columns =>
    show (Resolution.whole (resolveJoin schema table joinSchema kind label keys columns)).fault =
      (Resolution.whole (resolveJoin "" table joinSchema kind label keys columns)).fault
    refine Resolution.whole_bind_fault fun k => Resolution.whole_bind_fault fun t => ?_
    split
    · rfl
    · split
      · rfl
      · exact Resolution.whole_bind_fault fun _ => rfl
  | union table unionSchema all =>
    rw [fault, resolve, resolve]
    exact Resolution.whole_bind_fault fun _ => rfl
  | _ => rfl

end Step

end QueryRecipe
