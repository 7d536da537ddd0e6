import QueryRecipe.Proofs.Compile.Transforms
import QueryRecipe.Proofs.Query.Dropped
import QueryRecipe.Proofs.Step.Padding

/-!
# Blanks around the column names of a recipe

Two recipes that are the same but for blanks around column names are rejected with the same fault, or
both are accepted. If the columns of filter conditions and sort keys are written in the same way, they
compile to the same (`compile_padding`). Otherwise they come to different queries: a filter and a sort
step take a name with its blanks, which then is not found among the changed columns and is quoted as it
is (`compile_padding_compared`).
-/

namespace QueryRecipe

/-- A reference is made from the column that it stands for. -/
lemma column_referenceAfter (before : List Step) (column : String) :
    (referenceAfter before column).column = column := by
  rw [referenceAfter, valueAfter?]
  cases changesTo column before with
  | nil => rfl
  | cons c cs => exact Expr.column_foldl

/-- The columns that a filter compares. -/
def Filter.columns (f : Filter) : List String :=
  f.conditions.map (·.subject.column)

/-- Whether two recipes write the columns of filter conditions, and those of sort keys, in the same way. -/
def WrittenAlike (steps steps' : List Step) : Prop :=
  steps.flatMap Step.compared = steps'.flatMap Step.compared ∧
    steps.flatMap Step.sortedBy = steps'.flatMap Step.sortedBy

namespace Step
variable {before : List Step} {s : Step}

/-- The columns of the filters that a step adds are those that it compares, as they are written. -/
lemma columns_filtersAfter (fine : s.fault = none) :
    (s.filtersAfter before).flatMap Filter.columns = s.compared := by
  cases s with
  | filter conditions connective =>
    obtain ⟨k, known, -⟩ := edits_filter "" fine
    rw [filtersAfter, compared, known]
    cases tests conditions with
    | nil => rfl
    | cons t ts => simp [Filter.columns, column_referenceAfter]
  | _ => rfl

/-- The columns of the sort terms that a step adds are those that it sorts by, as they are written. -/
lemma columns_termsAfter :
    (s.termsAfter before).map (·.subject.column) = s.sortedBy := by
  cases s with
  | sort keys => simp [termsAfter, sortedBy, column_referenceAfter]
  | _ => rfl

end Step

section Alike
variable {schema : String} {steps steps' : List Step}

namespace Query

/-- Recipes that are the same but for blanks around column names end with the same fault. -/
lemma applyFrom_error_of_alike {i fault} {q q' : Query}
    (alike : steps.map Step.trimColumns = steps'.map Step.trimColumns)
    (wrong : applyFrom schema i q steps = .error fault) :
    applyFrom schema i q' steps' = .error fault := by
  induction steps generalizing i q q' steps' with
  | nil => cases wrong
  | cons s rest ih =>
    cases steps' with
    | nil => cases alike
    | cons s' rest' =>
      obtain ⟨first, others⟩ := List.cons.inj alike
      have same := Step.fault_eq_of_alike first
      cases e : s.fault with
      | none =>
        rw [applyFrom_cons e] at wrong
        rw [applyFrom_cons (same ▸ e)]
        exact ih others wrong
      | some f =>
        have tag : s.tag = s'.tag := by rw [← s.tag_trimColumns, first, s'.tag_trimColumns]
        rw [applyFrom_fault e, tag] at wrong
        rw [applyFrom_fault (same ▸ e), wrong]

/-- The filters and sort terms of a query name the columns as the steps write them. -/
lemma Reflects.written {q : Query} (h : q.Reflects steps) (fine : ∀ s ∈ steps, s.fault = none) :
    q.filters.flatMap Filter.columns = steps.flatMap Step.compared ∧
      q.order.map (·.subject.column) = steps.flatMap Step.sortedBy := by
  rw [h.filters, h.order]
  have names (before : List Step) {steps : List Step} (fine : ∀ s ∈ steps, s.fault = none) :
      (alongSteps Step.filtersAfter before steps).flatMap Filter.columns =
          steps.flatMap Step.compared ∧
        (alongSteps Step.termsAfter before steps).map (·.subject.column) =
          steps.flatMap Step.sortedBy := by
    induction steps generalizing before with
    | nil => exact ⟨rfl, rfl⟩
    | cons s rest ih =>
      obtain ⟨now, later⟩ := List.forall_mem_cons.1 fine
      obtain ⟨compared, sorted⟩ := ih (before ++ [s]) later
      simp only [alongSteps, List.flatMap_append, List.map_append, List.flatMap_cons]
      rw [compared, sorted, Step.columns_filtersAfter now, Step.columns_termsAfter]
      exact ⟨rfl, rfl⟩
  exact names [] fine

/-- Accepted recipes that are the same but for blanks around column names come to the same query exactly
if they write the columns alike that are taken as they are written. -/
lemma edits_eq_iff_of_alike {q q' : Query}
    (alike : steps.map Step.trimColumns = steps'.map Step.trimColumns)
    (run : ofSteps schema steps = .ok q) (run' : ofSteps schema steps' = .ok q') :
    q = q' ↔ WrittenAlike steps steps' := by
  have reflects : Reflects ([] ++ steps) q := Reflects.empty.applyFrom run
  have reflects' : Reflects ([] ++ steps') q' := Reflects.empty.applyFrom run'
  obtain ⟨fine, rfl⟩ := applyFrom_eq_ok.1 run
  obtain ⟨fine', rfl⟩ := applyFrom_eq_ok.1 run'
  constructor
  · intro same
    obtain ⟨compared, sorted⟩ := reflects.written fine
    obtain ⟨compared', sorted'⟩ := reflects'.written fine'
    rw [List.nil_append] at compared sorted compared' sorted'
    exact ⟨by rw [← compared, same, compared'], by rw [← sorted, same, sorted']⟩
  · rintro ⟨compared, sorted⟩
    have written {steps : List Step} (fine : ∀ s ∈ steps, s.fault = none) :
        (steps.flatMap fun s => (s.resolve schema).edits).flatMap Edit.compared =
            steps.flatMap Step.compared ∧
          (steps.flatMap fun s => (s.resolve schema).edits).flatMap Edit.sortedBy =
            steps.flatMap Step.sortedBy := by
      rw [List.flatMap_assoc, List.flatMap_assoc]
      exact ⟨List.flatMap_congr fun s mem => (Step.written_edits schema (fine s mem)).1,
        List.flatMap_congr fun s mem => (Step.written_edits schema (fine s mem)).2⟩
    have trimmed (steps : List Step) :
        (steps.flatMap fun s => (s.resolve schema).edits).map Edit.trimColumns =
          (steps.map Step.trimColumns).flatMap fun s => (s.resolve schema).edits := by
      rw [List.map_flatMap, List.flatMap_map]
      simp only [Step.resolve_trimColumns]
    congr 1
    apply Edit.list_eq_of_alike
    · rw [trimmed, alike, ← trimmed]
    · rw [(written fine).1, compared, (written fine').1]
    · rw [(written fine).2, sorted, (written fine').2]

end Query

end Alike

/-- Recipes that are the same but for blanks around column names are rejected with the same fault. They
compile to the same if they write the columns of filter conditions and sort keys alike, and they come to
the same query only then. -/
theorem compile_padding (d : Dialect) (table schema : String) (steps steps' : List Step) (page : Page)
    (known : Option (List String))
    (alike : steps.map Step.trimColumns = steps'.map Step.trimColumns) :
    (∀ fault, compile d table schema steps page known = .error fault ↔
        compile d table schema steps' page known = .error fault) ∧
      (WrittenAlike steps steps' →
        compile d table schema steps page known = compile d table schema steps' page known) ∧
      ∀ q q', Query.ofSteps (Text.trim schema) steps = .ok q →
        Query.ofSteps (Text.trim schema) steps' = .ok q' →
          (q = q' ↔ WrittenAlike steps steps') := by
  have wrong {steps steps' : List Step} {fault}
      (alike : steps.map Step.trimColumns = steps'.map Step.trimColumns)
      (rejected : compile d table schema steps page known = .error fault) :
      compile d table schema steps' page known = .error fault := by
    by_cases blank : Text.Blank table
    · rw [compile_blank blank] at rejected ⊢
      exact rejected
    · rw [compile_present blank] at rejected ⊢
      cases run : Query.ofSteps (Text.trim schema) steps with
      | ok q =>
        rw [run] at rejected
        cases rejected
      | error f =>
        rw [run] at rejected
        rw [show Query.ofSteps (Text.trim schema) steps' = .error f from
          Query.applyFrom_error_of_alike alike run]
        exact rejected
  refine ⟨fun fault => ⟨wrong alike, wrong alike.symm⟩, fun written => ?_,
    fun q q' => Query.edits_eq_iff_of_alike alike⟩
  cases compiled : compile d table schema steps page known with
  | error fault => exact (wrong alike compiled).symm
  | ok sql =>
    cases compiled' : compile d table schema steps' page known with
    | error fault =>
      rw [wrong alike.symm compiled'] at compiled
      cases compiled
    | ok sql' =>
      obtain ⟨q, run, rfl⟩ := compile_eq_ok compiled
      obtain ⟨q', run', rfl⟩ := compile_eq_ok compiled'
      rw [(Query.edits_eq_iff_of_alike alike run run').2 written]

/-- Blanks around all names but those of the filter and the sort step are without effect. -/
theorem compile_padding_names :
    let steps (a b : String) : List Step := [.select [a, b], .trim a .both, .fillNull b .null true,
      .filter [⟨"a", some "=", .null⟩, ⟨" ", none, .null⟩] none, .sort [⟨"b", some "desc"⟩],
      .join "t" none none none [⟨a, b⟩] [b], .groupBy [a] [⟨b, some "max", none⟩],
      .deduplicate [b, a], .reorder [b], .dropColumn [a]]
    (steps "a" "b").map Step.trimColumns = (steps " a" "\tb\n").map Step.trimColumns ∧
      WrittenAlike (steps "a" "b") (steps " a" "\tb\n") ∧
      compile .mysql "people" "" (steps "a" "b") {} none =
        compile .mysql "people" "" (steps " a" "\tb\n") {} none := by
  intro steps
  have alike : (steps "a" "b").map Step.trimColumns =
      (steps " a" "\tb\n").map Step.trimColumns := by decide +kernel
  have written : WrittenAlike (steps "a" "b") (steps " a" "\tb\n") := by
    constructor <;> decide +kernel
  obtain ⟨-, same, -⟩ := compile_padding .mysql "people" "" _ _ {} none alike
  exact ⟨alike, written, same written⟩

/-- A filter and a sort step miss the change to a column whose name they write with a blank, and quote
the name with it. -/
theorem compile_padding_compared :
    let steps (name : String) : List Step := [.select ["name"], .trim "name" .both,
      .filter [⟨name, some "is_null", .null⟩] none, .sort [⟨name, none⟩]]
    let text (name : String) : Option String :=
      ((compile .postgres "people" "" (steps name) {} none).map (Sql.text .postgres)).toOption
    (steps "name").map Step.trimColumns = (steps " name").map Step.trimColumns ∧
      text "name" = some ("SELECT TRIM(t.\"name\") AS \"name\" FROM \"people\" AS t " ++
        "WHERE (TRIM(t.\"name\") IS NULL) ORDER BY TRIM(t.\"name\") ASC") ∧
      text " name" = some ("SELECT TRIM(t.\"name\") AS \"name\" FROM \"people\" AS t " ++
        "WHERE (\" name\" IS NULL) ORDER BY \" name\" ASC") := by
  decide +kernel

end QueryRecipe
