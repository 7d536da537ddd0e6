import QueryRecipe.Compile
import QueryRecipe.Proofs.Step.WellFormed

/-!
# Which recipes compile

Whether a recipe compiles is decided step by step: no step is judged by what the steps before it made
of the query, nor by the dialect. The main statement is `compile_accepts_iff`: a source table without a
name is all that is wrong apart from the steps, a recipe with a source table compiles if and only if
each of its steps is well formed, and otherwise the first step that is not is reported by its position,
with the fault that it has when it stands alone.
-/

namespace QueryRecipe

open Text (Blank)

namespace Query

/-- A step without fault is applied, and the others follow. -/
lemma applyFrom_cons {schema i q s rest} (fine : s.fault = none) :
    applyFrom schema i q (s :: rest) =
      applyFrom schema (i + 1) (q.edits (s.resolve schema).edits) rest := by
  rw [applyFrom, apply_eq, Step.resolve_fault, fine]

/-- A step with a fault is reported by its position and kind. -/
lemma applyFrom_fault {schema i q s rest fault} (wrong : s.fault = some fault) :
    applyFrom schema i q (s :: rest) = .error (.step i s.tag fault) := by
  rw [applyFrom, apply_eq, Step.resolve_fault, wrong]

/-- Steps are applied to the end exactly if the first has no fault and the others are. -/
lemma applyFrom_cons_eq_ok {schema i q s rest q'} : applyFrom schema i q (s :: rest) = .ok q' ↔
    s.fault = none ∧ applyFrom schema (i + 1) (q.edits (s.resolve schema).edits) rest = .ok q' := by
  cases e : s.fault with
  | none => simp [applyFrom_cons e]
  | some fault => simp [applyFrom_fault e]

/-- Steps are applied to the end exactly if all of them are well formed. -/
lemma succeeds_applyFrom {schema i q steps} :
    Succeeds (applyFrom schema i q steps) ↔ ∀ s ∈ steps, s.WellFormed := by
  induction steps generalizing i q with
  | nil => simp [applyFrom]
  | cons s rest ih =>
    rw [List.forall_mem_cons, ← Step.fault_eq_none_iff]
    cases e : s.fault with
    | none => simp [applyFrom_cons e, ih]
    | some fault => simp [applyFrom_fault e]

/-- The first step that is not well formed ends the application. -/
lemma applyFrom_first {schema i q fault} {pre post : List Step} {s : Step}
    (fine : ∀ p ∈ pre, p.WellFormed)
    (wrong : s.fault = some fault) :
    applyFrom schema i q (pre ++ s :: post) = .error (.step (i + pre.length) s.tag fault) := by
  induction pre generalizing i q with
  | nil => exact applyFrom_fault wrong
  | cons p pre ih =>
    obtain ⟨now, later⟩ := List.forall_mem_cons.1 fine
    rw [List.cons_append, applyFrom_cons (Step.fault_eq_none_iff.2 now), ih later, List.length_cons,
      Nat.add_assoc, Nat.add_comm 1]

/-- Steps are not applied to the end exactly if one of them is the first that is not well formed; it is
reported by its position and kind. -/
lemma applyFrom_eq_error {schema i q steps fault} : applyFrom schema i q steps = .error fault ↔
    ∃ (pre : List Step) (s : Step) (post : List Step) (f : StepFault), steps = pre ++ s :: post ∧
      (∀ p ∈ pre, p.WellFormed) ∧ s.fault = some f ∧ fault = .step (i + pre.length) s.tag f := by
  constructor
  · intro h
    induction steps generalizing i q with
    | nil => cases h
    | cons s rest ih =>
      cases e : s.fault with
      | none =>
        rw [applyFrom_cons e] at h
        obtain ⟨pre, t, post, f, rfl, fine, wrong, rfl⟩ := ih h
        refine ⟨s :: pre, t, post, f, rfl, ?_, wrong, ?_⟩
        · exact List.forall_mem_cons.2 ⟨Step.fault_eq_none_iff.1 e, fine⟩
        · rw [List.length_cons, Nat.add_assoc, Nat.add_comm 1]
      | some f =>
        rw [applyFrom_fault e] at h
        cases h
        exact ⟨[], s, rest, f, rfl, by simp, e, rfl⟩
  · rintro ⟨pre, s, post, f, rfl, fine, wrong, rfl⟩
    exact applyFrom_first fine wrong

/-- Only a step can end the application. -/
lemma applyFrom_error {schema i q steps fault} (h : applyFrom schema i q steps = .error fault) :
    ∃ (j : Nat) (s : Step) (f : StepFault), fault = .step j s.tag f := by
  obtain ⟨pre, s, -, f, -, -, -, rfl⟩ := applyFrom_eq_error.1 h
  exact ⟨i + pre.length, s, f, rfl⟩

/-- A last step without fault is applied to what the others lead to. -/
lemma applyFrom_concat {schema i q steps s} (fine : s.fault = none) :
    applyFrom schema i q (steps ++ [s]) =
      (·.edits (s.resolve schema).edits) <$> applyFrom schema i q steps := by
  induction steps generalizing i q with
  | nil =>
    rw [List.nil_append, applyFrom_cons fine]
    rfl
  | cons t rest ih =>
    rw [List.cons_append, applyFrom, applyFrom]
    rcases q.apply schema t with ⟨q', _ | fault⟩
    · exact ih
    · rfl

/-- Edits are made one list after the other. -/
lemma edits_append (q : Query) (es fs : List Edit) : q.edits (es ++ fs) = (q.edits es).edits fs :=
  List.foldl_append

/-- Steps lead to a query exactly if they have no faults and it is the one after all their edits. -/
lemma applyFrom_eq_ok {schema i q steps q'} : applyFrom schema i q steps = .ok q' ↔
    (∀ s ∈ steps, s.fault = none) ∧ q.edits (steps.flatMap fun s => (s.resolve schema).edits) = q' := by
  induction steps generalizing i q with
  | nil => simp [applyFrom, edits]
  | cons s rest ih =>
    rw [applyFrom_cons_eq_ok, ih, List.forall_mem_cons, List.flatMap_cons, edits_append, and_assoc]

/-- A part of a query that a step either sets or leaves is what the last step that sets it makes it. -/
lemma last_applyFrom {α β : Type} (part : Query → β) {value? : Step → Option α} {f : α → β}
    {schema i steps} {q q' : Query} (step : ∀ (q : Query) (s : Step), s.fault = none →
      part (q.edits (s.resolve schema).edits) = (value? s).elim (part q) f)
    (run : applyFrom schema i q steps = .ok q') :
    part q' = (steps.filterMap value?).getLast?.elim (part q) f := by
  induction steps generalizing i q with
  | nil =>
    cases run
    rfl
  | cons s rest ih =>
    obtain ⟨fine, run⟩ := applyFrom_cons_eq_ok.1 run
    rw [ih run, step q s fine]
    cases e : value? s with
    | none => rw [List.filterMap_cons_none e, Option.elim_none]
    | some a =>
      rw [List.filterMap_cons_some e, List.getLast?_cons]
      cases (rest.filterMap value?).getLast? <;> rfl

/-- Steps are applied to the end exactly if the first of them are and then the others. -/
lemma applyFrom_append {schema i q pre post q'} : applyFrom schema i q (pre ++ post) = .ok q' ↔
    ∃ r, applyFrom schema i q pre = .ok r ∧ applyFrom schema (i + pre.length) r post = .ok q' := by
  simp only [applyFrom_eq_ok, List.forall_mem_append, List.flatMap_append, edits_append]
  constructor
  · rintro ⟨⟨first, later⟩, rfl⟩
    exact ⟨_, ⟨first, rfl⟩, later, rfl⟩
  · rintro ⟨_, ⟨first, rfl⟩, later, rfl⟩
    exact ⟨⟨first, later⟩, rfl⟩

end Query

section Compile
variable {d : Dialect} {table schema : String} {steps : List Step} {page : Page}
  {known : Option (List String)}

/-- With a blank source table nothing is compiled. -/
lemma compile_blank (blank : Blank table) :
    compile d table schema steps page known = .error .source := by
  rw [compile, Text.nonblank?_eq_none_iff.2 (Text.trim_eq_empty_iff.2 blank)]

/-- With a source table the query of the steps becomes a statement. -/
lemma compile_present (present : ¬ Blank table) :
    compile d table schema steps page known = (do
      let q ← Query.ofSteps (Text.trim schema) steps
      return (q.statement d ⟨Text.trim schema, Text.trim table⟩ page known).sql d) := by
  have trimmed : Text.nonblank? table = some (Text.trim table) :=
    Text.nonblank?_eq_some_iff.2 ⟨rfl, mt Text.trim_eq_empty_iff.1 present⟩
  rw [compile, trimmed]

/-- A recipe that compiles has a table. -/
lemma present_of_compile {sql} (compiled : compile d table schema steps page known = .ok sql) :
    ¬ Blank table := by
  intro blank
  rw [compile_blank blank] at compiled
  cases compiled

/-- What a recipe compiles to is the statement of the query of its steps. -/
lemma compile_eq_ok {sql} (compiled : compile d table schema steps page known = .ok sql) :
    ∃ q, Query.ofSteps (Text.trim schema) steps = .ok q ∧
      sql = (q.statement d ⟨Text.trim schema, Text.trim table⟩ page known).sql d := by
  rw [compile_present (present_of_compile compiled)] at compiled
  obtain ⟨q, run, ⟨⟩⟩ := bind_eq_ok.1 compiled
  exact ⟨q, run, rfl⟩

/-- The first step that is not well formed ends the compilation. -/
lemma compile_first {fault} {pre post : List Step} {s : Step} (present : ¬ Blank table)
    (fine : ∀ p ∈ pre, p.WellFormed) (wrong : s.fault = some fault) :
    compile d table schema (pre ++ s :: post) page known =
      .error (.step pre.length s.tag fault) := by
  rw [compile_present present, Query.ofSteps, Query.applyFrom_first fine wrong, Nat.zero_add]
  rfl

end Compile

/-- A recipe compiles exactly if it has a source table and its steps are well formed, each by itself;
the first step that is not is reported, with the fault that it has alone, in any dialect, on any table
and with any window. -/
theorem compile_accepts_iff (d : Dialect) (table schema : String) (steps : List Step) (page : Page)
    (known : Option (List String)) :
    (compile d table schema steps page known = .error .source ↔ Blank table) ∧
      (¬ Blank table →
        ((∃ q, compile d table schema steps page known = .ok q) ↔ ∀ s ∈ steps, s.WellFormed)) ∧
      (∀ pre s post, ¬ Blank table → steps = pre ++ s :: post → (∀ p ∈ pre, p.WellFormed) →
        ¬ s.WellFormed →
        ∃ fault, compile d table schema steps page known = .error (.step pre.length s.tag fault) ∧
          ∀ d' table' schema' page' known', ¬ Blank table' →
            compile d' table' schema' [s] page' known' = .error (.step 0 s.tag fault)) := by
  refine ⟨⟨fun h => ?_, compile_blank⟩, fun present => ?_, fun pre s post present e fine wrong => ?_⟩
  · by_contra present
    rw [compile_present present] at h
    cases e : Query.ofSteps (Text.trim schema) steps with
    | ok q =>
      rw [e] at h
      cases h
    | error fault =>
      obtain ⟨i, s, f, rfl⟩ := Query.applyFrom_error e
      rw [e] at h
      cases h
  · rw [compile_present present]
    exact succeeds_bind_pure.trans Query.succeeds_applyFrom
  · rw [← Step.fault_eq_none_iff, ← ne_eq, Option.ne_none_iff_exists'] at wrong
    obtain ⟨fault, wrong⟩ := wrong
    subst e
    refine ⟨fault, compile_first present fine wrong, fun _ _ _ _ _ present' => ?_⟩
    -- the step alone is the first wrong one after no steps at all
    have alone : ∀ p ∈ ([] : List Step), p.WellFormed := by simp
    exact compile_first present' alone wrong

/-- The keys of a cross join and the direction of a sort key without a column are not judged, so the
union without a table is the first wrong step here. -/
theorem compile_accepts_cross_join :
    let fine : List Step := [.join "sizes" none (some "cross") none [⟨"", ""⟩] [],
      .sort [⟨" ", some "sideways"⟩]]
    let wrong : Step := .union " " none false
    ¬ Blank "orders" ∧
      (∃ q, compile .mysql "orders" "shop" fine {} none = .ok q) ∧
      ∃ fault, compile .sqlite "orders" "" (fine ++ wrong :: [.trim "" .both]) {} none =
          .error (.step 2 "union" fault) ∧
        compile .postgres "sales" "" [wrong] ⟨some 1, none⟩ none = .error (.step 0 "union" fault) := by
  intro fine wrong
  have orders : ¬ Blank "orders" := by
    rw [← Text.trim_eq_empty_iff]
    decide +kernel
  have sales : ¬ Blank "sales" := by
    rw [← Text.trim_eq_empty_iff]
    decide +kernel
  have blank : Blank " " := Text.trim_eq_empty_iff.1 (by decide +kernel)
  have sizes : ¬ Blank "sizes" := by
    rw [← Text.trim_eq_empty_iff]
    decide +kernel
  have cross : JoinKind.ofText (some "cross") = .ok .cross := by decide +kernel
  have formed : ∀ s ∈ fine, s.WellFormed := by
    rw [List.forall_mem_cons, List.forall_mem_singleton]
    refine ⟨⟨sizes, .cross, cross, .inl rfl⟩, fun k mem given => ?_⟩
    cases List.mem_singleton.1 mem
    exact absurd blank given
  obtain ⟨-, accepts, -⟩ := compile_accepts_iff .mysql "orders" "shop" fine {} none
  obtain ⟨-, -, first⟩ :=
    compile_accepts_iff .sqlite "orders" "" (fine ++ wrong :: [.trim "" .both]) {} none
  obtain ⟨fault, reported, alone⟩ :=
    first fine wrong [.trim "" .both] orders rfl formed (fun present => present blank)
  exact ⟨orders, (accepts orders).2 formed, fault, reported, alone _ _ _ _ _ sales⟩

end QueryRecipe
