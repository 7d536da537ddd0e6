import QueryRecipe.Proofs.Step.Edits

/-!
# Blanks around the column names of a step

A step trims the names of columns before it uses them, with two exceptions: a filter and a sort step only
look whether anything is left of a name, and then take it as it is written (`Step.compared`,
`Step.sortedBy`). So the blanks around column names have no part in what is wrong with a step, and of its
edits they appear in tests and sort terms only (`Step.resolve_trimColumns`).
-/

namespace QueryRecipe

/-- A test with its column trimmed. -/
def Test.trimColumn (t : Test) : Test :=
  { t with column := Text.trim t.column }

/-- An edit with the columns trimmed that it refers to as they are written. -/
def Edit.trimColumns : Edit → Edit
  | .filter connective tests => .filter connective (tests.map Test.trimColumn)
  | .sort column direction => .sort (Text.trim column) direction
  | e => e

/-- The columns of the tests of an edit, as they are written. -/
def Edit.compared : Edit → List String
  | .filter _ tests => tests.map (·.column)
  | _ => []

/-- The column that an edit sorts by, as it is written. -/
def Edit.sortedBy : Edit → List String
  | .sort column _ => [column]
  | _ => []

namespace Text

/-- What is left of a text is the same if it is trimmed first. -/
@[simp]
lemma nonblank?_trim (s : String) : nonblank? (trim s) = nonblank? s := by
  simp [nonblank?]

/-- The texts left without the blank ones are the same if all are trimmed first. -/
@[simp]
lemma nonblanks_map_trim (xs : List String) : nonblanks (xs.map trim) = nonblanks xs := by
  simp [nonblanks, List.filterMap_map]

end Text

namespace Step

/-- A step with `f` applied to each name of a column that it refers to. -/
def mapColumns (f : String → String) : Step → Step
  | .select columns => .select (columns.map f)
  | .reorder columns => .reorder (columns.map f)
  | .dropColumn columns => .dropColumn (columns.map f)
  | .deduplicate columns => .deduplicate (columns.map f)
  | .cast column dataType => .cast (f column) dataType
  | .replace column old new expression => .replace (f column) old new expression
  | .trim column side => .trim (f column) side
  | .recase column mode => .recase (f column) mode
  | .fillNull column value emptyToo => .fillNull (f column) value emptyToo
  | .filter conditions connective =>
    .filter (conditions.map fun c => { c with column := f c.column }) connective
  | .sort keys => .sort (keys.map fun k => { k with column := f k.column })
  | .join table schema kind label keys columns =>
    .join table schema kind label (keys.map fun k => ⟨f k.left, f k.right⟩) (columns.map f)
  | .groupBy columns aggregations =>
    .groupBy (columns.map f) (aggregations.map fun a => { a with column := f a.column })
  | .rename mapping => .rename mapping
  | .addColumn name expression => .addColumn name expression
  | .limit count offset => .limit count offset
  | .union table schema all => .union table schema all

/-- A step without the blanks around its column names. -/
def trimColumns : Step → Step :=
  mapColumns Text.trim

/-- The columns of the tests of a step, as they are written. -/
def compared : Step → List String
  | .filter conditions _ => (tests conditions).map (·.column)
  | _ => []

/-- The columns that a step sorts by, as they are written. -/
def sortedBy : Step → List String
  | .sort keys => (sortKeys keys).map (·.1)
  | _ => []

/-- Trimming the columns of a step leaves its kind. -/
lemma tag_trimColumns (s : Step) : s.trimColumns.tag = s.tag := by
  cases s <;> rfl

/-- A needed text is read alike if it is trimmed first. -/
@[simp]
lemma needed_trim (d : Defect) (s : String) : needed d (Text.trim s) = needed d s := by
  rw [needed, needed, Text.nonblank?_trim]

/-- A change goes to the same column if its name is trimmed first. -/
@[simp]
lemma changing_trim (column : String) (x : Except StepFault Change) :
    changing (Text.trim column) x = changing column x := by
  rw [changing, changing, needed_trim]

/-- Conditions with trimmed columns are resolved to the tests with trimmed columns, or fail alike. -/
lemma resolveTests_trim {conditions : List FilterCondition} :
    resolveTests (conditions.map fun c => { c with column := Text.trim c.column }) =
      (resolveTests conditions).map (List.map Test.trimColumn) := by
  induction conditions with
  | nil => rfl
  | cons c rest ih =>
    rw [List.map_cons, resolveTests, resolveTests, ih, Text.nonblank?_trim]
    cases Text.nonblank? c.column with
    | none => rfl
    | some t =>
      cases checked (Comparison.ofText (c.comparison.getD "")) with
      | error f => rfl
      | ok k => cases resolveTests rest <;> rfl

/-- Sort keys with trimmed columns are resolved to the terms with trimmed columns, up to the same fault. -/
lemma each_sortKey_trim {keys : List SortKey} :
    Resolution.each resolveSortKey (keys.map fun k => { k with column := Text.trim k.column }) =
      ⟨(Resolution.each resolveSortKey keys).edits.map Edit.trimColumns,
        (Resolution.each resolveSortKey keys).fault⟩ := by
  induction keys with
  | nil => rfl
  | cons k rest ih =>
    rw [List.map_cons, Resolution.each, Resolution.each, ih]
    rw [resolveSortKey, resolveSortKey, Text.nonblank?_trim]
    cases Text.nonblank? k.column with
    | none => rfl
    | some t =>
      cases checked (Direction.ofText k.direction) with
      | error f => simp
      | ok direction => simp [Edit.trimColumns]

/-- Join keys are resolved alike if their columns are trimmed first. -/
lemma mapM_resolveJoinKey_trim (keys : List JoinKey) :
    (keys.map fun k => ⟨Text.trim k.left, Text.trim k.right⟩).mapM resolveJoinKey =
      keys.mapM resolveJoinKey := by
  have same : (resolveJoinKey ∘ fun k => ⟨Text.trim k.left, Text.trim k.right⟩) =
      resolveJoinKey := by
    funext k
    simp only [Function.comp, resolveJoinKey, needed_trim]
  rw [List.mapM_map, same]

/-- Aggregations are resolved alike if their columns are trimmed first. -/
lemma mapM_resolveAggregation_trim (aggregations : List Aggregation) :
    (aggregations.map fun a => { a with column := Text.trim a.column }).mapM resolveAggregation =
      aggregations.mapM resolveAggregation := by
  have same : (resolveAggregation ∘ fun a => { a with column := Text.trim a.column }) =
      resolveAggregation := by
    funext a
    simp only [Function.comp, resolveAggregation, Text.nonblank?_trim]
  rw [List.mapM_map, same]

/-- Without the blanks around its column names a step comes to the same edits, but for the names that
it takes as they are written, and to the same fault. -/
lemma resolve_trimColumns (schema : String) (s : Step) :
    s.trimColumns.resolve schema =
      ⟨(s.resolve schema).edits.map Edit.trimColumns, (s.resolve schema).fault⟩ := by
  have kept {s : Step} (filter : ∀ conditions connective, s ≠ .filter conditions connective)
      (sort : ∀ keys, s ≠ .sort keys) (same : s.trimColumns.resolve schema = s.resolve schema) :
      s.trimColumns.resolve schema =
        ⟨(s.resolve schema).edits.map Edit.trimColumns, (s.resolve schema).fault⟩ := by
    have own : ∀ e ∈ (s.resolve schema).edits, e.trimColumns = e := by
      intro e mem
      cases asks_of_mem mem with
      | filter => exact absurd rfl (filter _ _)
      | sort => exact absurd rfl (sort _)
      | _ => rfl
    rw [same, List.map_congr_left own, List.map_id']
  cases s with
  | filter conditions connective =>
    rw [trimColumns, mapColumns, resolve, resolve, resolveTests_trim]
    cases checked (Connective.ofText connective) with
    | error f => rfl
    | ok k =>
      cases resolveTests conditions with
      | error f => rfl
      | ok ts => cases ts <;> rfl
  | sort keys => exact each_sortKey_trim
  | join table joinSchema kind label keys columns =>
    refine kept (by simp) (by simp) ?_
    simp only [trimColumns, mapColumns, resolve, resolveJoin, mapM_resolveJoinKey_trim,
      Text.nonblanks_map_trim, List.map_eq_nil_iff]
  | groupBy columns aggregations =>
    refine kept (by simp) (by simp) ?_
    simp only [trimColumns, mapColumns, resolve, resolveGroupBy, mapM_resolveAggregation_trim,
      Text.nonblanks_map_trim]
  | recase column mode =>
    refine kept (by simp) (by simp) ?_
    cases mode <;> simp [trimColumns, mapColumns, resolve]
  | _ =>
    refine kept (by simp) (by simp) ?_
    simp only [trimColumns, mapColumns, resolve, Text.nonblanks_map_trim, changing_trim]

/-- The edits of a step without fault compare and sort by the same names. -/
lemma written_edits (schema : String) {s : Step} (fine : s.fault = none) :
    (s.resolve schema).edits.flatMap Edit.compared = s.compared ∧
      (s.resolve schema).edits.flatMap Edit.sortedBy = s.sortedBy := by
  have none {f : Edit → List String} (quiet : ∀ e, s.Asks schema e → f e = []) :
      (s.resolve schema).edits.flatMap f = [] :=
    List.flatMap_eq_nil_iff.2 fun e mem => quiet e (asks_of_mem mem)
  cases s with
  | filter conditions connective =>
    obtain ⟨k, -, edits⟩ := edits_filter schema fine
    refine ⟨?_, none fun e asked => by cases asked <;> rfl⟩
    rw [edits, compared]
    split
    next e => simp [e]
    next => simp [Edit.compared]
  | sort keys =>
    refine ⟨none fun e asked => by cases asked <;> rfl, ?_⟩
    rw [edits_sort fine, List.flatMap_map]
    exact List.map_eq_flatMap.symm
  | _ => exact ⟨none fun e asked => by cases asked <;> rfl, none fun e asked => by cases asked <;> rfl⟩

end Step

/-- Steps that are the same but for blanks around column names have the same fault. -/
lemma Step.fault_eq_of_alike {s s' : Step} (alike : s.trimColumns = s'.trimColumns) :
    s.fault = s'.fault := by
  have resolved := congrArg (fun s => (s.resolve "").fault) alike
  simp only [resolve_trimColumns] at resolved
  exact resolved

/-- Tests that are the same but for blanks are the same if their columns are. -/
lemma Test.eq_of_alike {ts ts' : List Test}
    (alike : ts.map Test.trimColumn = ts'.map Test.trimColumn)
    (same : ts.map (·.column) = ts'.map (·.column)) : ts = ts' := by
  have apart : Function.Injective fun t : Test => (t.trimColumn, t.column) := by
    rintro ⟨c, k, v⟩ ⟨c', k', v'⟩ h
    simp only [Test.trimColumn, Prod.mk.injEq, Test.mk.injEq] at h
    obtain ⟨⟨-, rfl, rfl⟩, rfl⟩ := h
    rfl
  apply List.map_injective_iff.2 apart
  rw [← List.zip_map', ← List.zip_map', alike, same]

namespace Edit

/-- Edits that differ only in padding compare as many columns and sort by as many. -/
lemma length_written {e e' : Edit} (alike : e.trimColumns = e'.trimColumns) :
    e.compared.length = e'.compared.length ∧ e.sortedBy.length = e'.sortedBy.length := by
  have kept (e : Edit) : e.trimColumns.compared.length = e.compared.length ∧
      e.trimColumns.sortedBy.length = e.sortedBy.length := by
    cases e <;> simp [trimColumns, compared, sortedBy]
  rw [← (kept e).1, ← (kept e).2, alike]
  exact kept e'

/-- Edits that differ only in padding are equal if they compare and sort by the same columns as written. -/
lemma eq_of_alike {e e' : Edit} (alike : e.trimColumns = e'.trimColumns)
    (compared : e.compared = e'.compared) (sorted : e.sortedBy = e'.sortedBy) : e = e' := by
  cases e with
  | filter k ts =>
    cases e' with
    | filter k' ts' =>
      simp only [trimColumns, filter.injEq] at alike
      rw [alike.1, Test.eq_of_alike alike.2 compared]
    | _ => cases alike
  | sort column direction =>
    cases e' with
    | sort column' direction' =>
      simp only [trimColumns, sort.injEq] at alike
      simp only [sortedBy, List.cons.injEq, and_true] at sorted
      rw [alike.2, sorted]
    | _ => cases alike
  | _ =>
    cases e' with
    | filter | sort => cases alike
    | _ => exact alike

/-- Edits that are the same but for blanks are the same if they write the columns alike that they compare
and sort by. -/
lemma list_eq_of_alike {es es' : List Edit} (alike : es.map trimColumns = es'.map trimColumns)
    (compared : es.flatMap compared = es'.flatMap compared)
    (sorted : es.flatMap sortedBy = es'.flatMap sortedBy) : es = es' := by
  induction es generalizing es' with
  | nil =>
    cases es' with
    | nil => rfl
    | cons => cases alike
  | cons e es ih =>
    cases es' with
    | nil => cases alike
    | cons e' es' =>
      obtain ⟨first, rest⟩ := List.cons.inj alike
      obtain ⟨sizes, sizes'⟩ := length_written first
      obtain ⟨own, others⟩ := List.append_inj compared sizes
      obtain ⟨own', others'⟩ := List.append_inj sorted sizes'
      rw [eq_of_alike first own own', ih rest others others']

end Edit

end QueryRecipe
