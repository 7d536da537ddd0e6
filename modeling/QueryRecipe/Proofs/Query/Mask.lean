import QueryRecipe.Proofs.Query.Edit
import QueryRecipe.Proofs.Query.Entries
import QueryRecipe.Proofs.Statement.Mask
import QueryRecipe.Proofs.Statement.TrailingName

/-!
# Queries with their strings emptied

What edits make of a query does not depend on what its strings say: to empty the strings and then edit
is to edit and then empty them (`Query.edits_mask`). The same holds of the statement of a query
(`Query.statement_mask`), as far as the two tests allow it that read written text: the names by which
the items of the select list are put in order never depend on strings, and the prefix test that finds
the sort terms for `DISTINCT ON` is a hypothesis here.
-/

namespace QueryRecipe

/-- A test with its strings emptied. -/
def Test.mask (t : Test) : Test :=
  { t with operand := t.operand.maskOperand t.comparison }

/-- An edit with its strings emptied. -/
def Edit.mask : Edit → Edit
  | .filter connective tests => .filter connective (tests.map Test.mask)
  | .change column c => .change column c.mask
  | e => e

/-- A transform with its strings emptied. -/
def Transform.mask (t : Transform) : Transform :=
  { t with value := t.value.mask }

namespace Query

/-- A query with its strings emptied. -/
def mask (q : Query) : Query :=
  { q with
    transforms := q.transforms.map Transform.mask
    filters := q.filters.map Filter.mask
    order := q.order.map SortTerm.mask }

section Edit
variable {q : Query}

/-- The transform of a column in the masked query is the masked transform. -/
lemma transform?_mask {column : String} :
    q.mask.transform? column = (q.transform? column).map Expr.mask := by
  have same : (fun t : Transform => t.column == column) ∘ Transform.mask =
      fun t => t.column == column := rfl
  rw [transform?, transform?, mask, List.find?_map, same, Option.map_map, Option.map_map]
  rfl

/-- The reference to a column in the masked query is the masked reference. -/
lemma reference_mask {column : String} : q.mask.reference column = (q.reference column).mask := by
  rw [reference, reference, transform?_mask]
  cases q.transform? column <;> rfl

/-- What a step changes in the masked query is masked. -/
lemma source_mask {column : String} : q.mask.source column = (q.source column).mask := by
  rw [source, source, transform?_mask]
  cases q.transform? column <;> rfl

/-- Setting a masked transform among masked ones masks the outcome. -/
lemma setTransform_mask {column : String} {value : Expr} {ts : List Transform} :
    setTransform column value.mask (ts.map Transform.mask) =
      (setTransform column value ts).map Transform.mask := by
  induction ts with
  | nil => rfl
  | cons t ts ih =>
    by_cases e : t.column = column <;> simp [setTransform, Transform.mask, e]
    simpa [Transform.mask] using ih

/-- An edit asks for the same of a query whatever the strings say. -/
lemma edit_mask (e : Edit) : q.mask.edit e.mask = (q.edit e).mask := by
  cases e with
  | filter connective tests =>
    simp only [edit, Edit.mask, reference_mask, List.map_map]
    simp [mask, Filter.mask, Condition.mask, Test.mask, Function.comp_def]
  | sort column direction =>
    simp only [edit, Edit.mask, reference_mask]
    simp [mask, SortTerm.mask]
  | change column c =>
    have value : Expr.changed (q.source column).mask c.mask = (Expr.changed (q.source column) c).mask :=
      rfl
    simp only [edit, Edit.mask, source_mask, value]
    simp [mask, setTransform_mask]
  | _ => rfl

/-- Masked edits of a masked query give the masked outcome. -/
lemma edits_mask {es : List Edit} : q.mask.edits (es.map Edit.mask) = (q.edits es).mask := by
  induction es generalizing q with
  | nil => rfl
  | cons e es ih =>
    have first : q.mask.edits ((e :: es).map Edit.mask) =
        (q.mask.edit e.mask).edits (es.map Edit.mask) := rfl
    rw [first, edit_mask, ih]
    rfl

end Edit

section Statement
variable {q : Query} {d : Dialect}

/-- The item of a column in the masked query is the masked item. -/
lemma columnItem_mask : q.mask.columnItem = SelectItem.mask ∘ q.columnItem := by
  funext column
  rw [Function.comp, columnItem, columnItem, transform?_mask]
  split
  · rfl
  · cases q.transform? column <;> rfl

/-- The item of a grouped column in the masked query is the masked item. -/
lemma groupedItem_mask : q.mask.groupedItem = SelectItem.mask ∘ q.groupedItem := by
  funext column
  rw [Function.comp, groupedItem, groupedItem, transform?_mask]
  cases q.transform? column <;> rfl

/-- The item of an aggregation in the masked query is the masked item. -/
lemma aggregateItem_mask : q.mask.aggregateItem = SelectItem.mask ∘ q.aggregateItem := by
  funext a
  rw [Function.comp, aggregateItem, aggregateItem, reference_mask]
  split <;> rfl

/-- The column items of the masked query are the masked column items. -/
lemma columnItems_mask {known : Option (List String)} :
    q.mask.columnItems known = (q.columnItems known).map SelectItem.mask := by
  have columns : q.mask.columns = q.columns := rfl
  have transforms : q.mask.transforms = q.transforms.map Transform.mask := rfl
  have dropped : q.mask.dropped = q.dropped := rfl
  unfold columnItems
  rw [columns, transforms, dropped, columnItem_mask]
  cases q.columns with
  | explicit names => simp
  | wildcard =>
    cases q.transforms with
    | nil => rfl
    | cons t ts => cases known <;> simp [Transform.mask]

/-- The items of the masked query are the masked items. -/
lemma items_mask {known : Option (List String)} :
    q.mask.items known = (q.items known).map SelectItem.mask := by
  have grouping : q.mask.grouping = q.grouping := rfl
  have added : q.mask.added = q.added := rfl
  rw [items, items, grouping, added, columnItems_mask, groupedItem_mask, aggregateItem_mask]
  cases q.grouping with
  | none => simp [SelectItem.mask, ItemValue.mask]
  | some g => simp

/-- An item without a label shows a column, or all of them, and has no strings. -/
lemma mask_of_label_none {known : Option (List String)} {i : SelectItem} (mem : i ∈ q.items known)
    (none : i.label = none) : i.mask = i := by
  have grouped {column} (none : (q.groupedItem column).label = Option.none) :
      (q.groupedItem column).mask = q.groupedItem column := by
    rw [groupedItem] at none ⊢
    cases e : q.transform? column with
    | none => rfl
    | some e' => simp [e] at none
  have plain {column} (none : (q.columnItem column).label = Option.none) :
      (q.columnItem column).mask = q.columnItem column := by
    rw [columnItem] at none ⊢
    split
    · rfl
    next bare =>
      cases e : q.transform? column with
      | none => rfl
      | some e' => simp [e, bare] at none
  rw [items_eq] at mem
  rcases List.mem_append.1 mem with mem | mem
  · obtain ⟨column, -, rfl⟩ := List.mem_map.1 mem
    rw [entry] at none ⊢
    split
    next g => exact grouped (by simpa [g] using none)
    next g => exact plain (by simpa [g] using none)
  · rw [otherItems] at mem
    cases grouping : q.grouping with
    | some g =>
      simp only [grouping] at mem
      obtain ⟨a, -, rfl⟩ := List.mem_map.1 mem
      cases none
    | none =>
      simp only [grouping] at mem
      rcases List.mem_append.1 mem with mem | mem
      · split at mem
        · rw [List.mem_singleton.1 mem]
          rfl
        · cases mem
      · obtain ⟨a, -, rfl⟩ := List.mem_map.1 mem
        cases none

/-- The name of an item does not depend on its strings: it is the label, which is read off the end, or
the item has no strings. -/
lemma name_mask {known : Option (List String)} {i : SelectItem} (mem : i ∈ q.items known) :
    TrailingName.ofText ((i.mask.sql d).spelling d) = TrailingName.ofText ((i.sql d).spelling d) := by
  cases label : i.label with
  | none => rw [mask_of_label_none mem label]
  | some l =>
    have masked : i.mask.label = some l := label
    rw [SelectItem.ofText_label label, SelectItem.ofText_label masked]

/-- What is looked for among images is found where its preimage is, and taken away there. -/
lemma find?_eraseP_map {α β : Type} {f : α → β} {p : β → Bool} {g : α → Bool} {l : List α}
    (same : ∀ a ∈ l, p (f a) = g a) :
    (l.map f).find? p = (l.find? g).map f ∧ (l.map f).eraseP p = (l.eraseP g).map f := by
  induction l with
  | nil => exact ⟨rfl, rfl⟩
  | cons a l ih =>
    obtain ⟨now, later⟩ := List.forall_mem_cons.1 same
    obtain ⟨found, rest⟩ := ih later
    cases e : g a <;> simp [now, e, found, rest]

/-- Entries with the same names are put in the same order. -/
lemma arrange_map {α β : Type} {f : α → β} {nameOf : β → String} {nameOf' : α → String}
    {names : List String} {entries : List α} (same : ∀ a ∈ entries, nameOf (f a) = nameOf' a) :
    arrange nameOf names (entries.map f) = (arrange nameOf' names entries).map f := by
  induction names generalizing entries with
  | nil => rfl
  | cons name names ih =>
    obtain ⟨found, rest⟩ := find?_eraseP_map (f := f) (p := (nameOf · == name))
      (g := (nameOf' · == name)) fun a mem => by rw [same a mem]
    rw [arrange, arrange, found, rest]
    cases entries.find? (nameOf' · == name) with
    | none => exact ih same
    | some a =>
      have later := @ih (entries.eraseP (nameOf' · == name)) fun a mem =>
        same a (List.mem_of_mem_eraseP mem)
      simp [later]

/-- The same terms come first if each is found by the same references. -/
lemma leadBy_mask {es : List Expr} {terms : List SortTerm}
    (same : ∀ e ∈ es, ∀ t ∈ terms, sortsBy d e.mask t.mask = sortsBy d e t) :
    leadBy d (es.map Expr.mask) (terms.map SortTerm.mask) =
      (leadBy d es terms).map SortTerm.mask := by
  induction es generalizing terms with
  | nil => rfl
  | cons e es ih =>
    obtain ⟨now, later⟩ := List.forall_mem_cons.1 same
    obtain ⟨found, rest⟩ := find?_eraseP_map now
    rw [List.map_cons, leadBy, leadBy, found, rest]
    cases terms.find? (sortsBy d e) with
    | none => simp [ih later, SortTerm.mask]
    | some t =>
      have others := @ih (terms.eraseP (sortsBy d e)) fun e he t ht =>
        later e he t (List.mem_of_mem_eraseP ht)
      simp [others]

/-- The references to columns in the masked query are the masked references. -/
lemma references_mask (columns : List String) :
    columns.map q.mask.reference = (columns.map q.reference).map Expr.mask := by
  rw [List.map_map]
  exact List.map_congr_left fun c _ => reference_mask

/-- The head of the masked query is the masked head. -/
lemma head_mask : q.mask.head d = (q.head d).mask := by
  have dedup : q.mask.dedup = q.dedup := rfl
  rw [head, head, dedup]
  cases q.dedup with
  | off | rows => rfl
  | on columns => cases d.hasDistinctOn <;> simp [Head.mask, references_mask]

/-- The masked query shows the masked items, in the same order. -/
lemma shownItems_mask {known : Option (List String)} :
    q.mask.shownItems d known = (q.shownItems d known).map SelectItem.mask := by
  have display : q.mask.display = q.display := rfl
  rw [shownItems, shownItems, display, items_mask]
  cases q.display with
  | none => rfl
  | some names => exact arrange_map fun i mem => name_mask mem

/-- The masked query is grouped by the masked expressions. -/
lemma groupBy_mask : q.mask.groupBy d = (q.groupBy d).map Expr.mask := by
  have dedup : q.mask.dedup = q.dedup := rfl
  have grouping : q.mask.grouping = q.grouping := rfl
  unfold groupBy
  rw [grouping, dedup]
  cases q.grouping with
  | some g => exact references_mask g.columns
  | none =>
    cases q.dedup with
    | off | rows => rfl
    | on columns => cases d.hasDistinctOn <;> simp [references_mask]

/-- The statement of a query is the same but for its strings, if each column on which rows are told
apart finds the same sort terms. -/
lemma statement_mask {source : Source} {page : Page} {known : Option (List String)}
    (same : ∀ columns, q.dedup = .on columns → ∀ c ∈ columns, ∀ t ∈ q.order,
      sortsBy d (q.reference c).mask t.mask = sortsBy d (q.reference c) t) :
    q.mask.statement d source page known = (q.statement d source page known).mask := by
  have dedup : q.mask.dedup = q.dedup := rfl
  have order : q.mask.order = q.order.map SortTerm.mask := rfl
  have orderBy : q.mask.orderBy d = (q.orderBy d).map SortTerm.mask := by
    rw [Query.orderBy, Query.orderBy, dedup, order]
    cases e : q.dedup with
    | off | rows => rfl
    | on columns =>
      cases d.hasDistinctOn with
      | false => rfl
      | true =>
        simp only [references_mask, if_true]
        exact leadBy_mask (List.forall_mem_map.2 (same columns e))
  rw [statement, statement, head_mask, shownItems_mask, groupBy_mask, orderBy]
  rfl

end Statement

end Query

end QueryRecipe
