import Mathlib.Data.List.Perm.Basic
import QueryRecipe.Statement.OfQuery

/-!
# The entries of the select list

The select list has an entry for each column that is listed or grouped by, and besides them the other
items: aggregates, computed columns and the wildcard (`Query.items_eq`). The order in which the items
are shown takes none away and adds none (`Query.shownItems_perm`).
-/

namespace QueryRecipe.Query

/-- The columns with an entry of their own: those that the query groups by, those that are selected, or,
when a wildcard is spelled out, the known columns that are not dropped or the changed columns. -/
def listedColumns (q : Query) (known : Option (List String)) : List String :=
  match q.grouping with
  | some g => g.columns
  | none =>
    match q.columns, q.transforms, known with
    | .explicit names, _, _ => names
    | .wildcard, [], _ => []
    | .wildcard, _, some names => names.filter fun c => !q.dropped.contains c
    | .wildcard, transforms, none => transforms.map (·.column)

/-- The entry for a column. -/
def entry (q : Query) (column : String) : SelectItem :=
  if q.grouping.isSome then q.groupedItem column else q.columnItem column

/-- The items that are not for a column: the aggregates of a grouped query, or else the wildcard if it
stays one, and the computed columns. -/
def otherItems (q : Query) : List SelectItem :=
  match q.grouping with
  | some g => g.aggregates.map q.aggregateItem
  | none =>
    (if q.columns = .wildcard ∧ q.transforms = [] then [⟨.everything, none⟩] else []) ++
      q.added.map fun a => ⟨.written a.expression, some a.label⟩

section Items
variable {q : Query} {known : Option (List String)}

/-- The items are the entries and then the other items. -/
lemma items_eq : q.items known = (q.listedColumns known).map q.entry ++ q.otherItems := by
  cases grouped : q.grouping with
  | some g =>
    have entries : q.entry = q.groupedItem := by
      funext c
      simp [entry, grouped]
    simp [items, listedColumns, otherItems, entries, grouped]
  | none =>
    have entries : q.entry = q.columnItem := by
      funext c
      simp [entry, grouped]
    simp only [items, listedColumns, otherItems, entries, grouped, columnItems]
    cases columns : q.columns with
    | explicit names => simp
    | wildcard =>
      cases transforms : q.transforms with
      | nil => simp
      | cons t ts => cases known <;> simp

/-- What is found first and taken away was one of the entries. -/
lemma cons_eraseP_perm {α : Type} {p : α → Bool} {l : List α} {a} (found : l.find? p = some a) :
    (a :: l.eraseP p).Perm l := by
  induction l with
  | nil => cases found
  | cons b l ih =>
    cases e : p b with
    | true =>
      rw [List.find?_cons_of_pos e] at found
      cases found
      rw [List.eraseP_cons_of_pos e]
    | false =>
      rw [List.find?_cons_of_neg (by simp [e])] at found
      rw [List.eraseP_cons_of_neg (by simp [e])]
      exact (List.Perm.swap b a _).trans ((ih found).cons b)

/-- To take away what a filter does not keep changes nothing of what it keeps. -/
lemma filter_eraseP_of_apart {α : Type} {p kept : α → Bool} {l : List α}
    (apart : ∀ a ∈ l, p a = true → kept a = false) : (l.eraseP p).filter kept = l.filter kept := by
  rcases List.exists_or_eq_self_of_eraseP p l with same | ⟨a, front, back, -, found, split, rest⟩
  · rw [same]
  · have other : kept a = false := apart a (split ▸ by simp) found
    rw [rest, split, List.filter_append, List.filter_append,
      List.filter_cons_of_neg (by simp [other])]

/-- Entries are put in order without loss. -/
lemma arrange_perm {α : Type} {nameOf : α → String} {names : List String} {entries : List α} :
    (arrange nameOf names entries).Perm entries := by
  -- what is found for a name is missing from the entries that are left
  induction names generalizing entries with
  | nil => exact .refl _
  | cons name names ih =>
    rw [arrange]
    cases found : entries.find? (nameOf · == name) with
    | none => exact ih
    | some a => exact (ih.cons a).trans (cons_eraseP_perm found)

/-- The items are shown in some order. -/
lemma shownItems_perm_items {d : Dialect} : (q.shownItems d known).Perm (q.items known) := by
  rw [shownItems]
  cases q.display with
  | none => exact .refl _
  | some names => exact arrange_perm

/-- The items shown are those of the listed columns and the others, in some order. -/
lemma shownItems_perm {d : Dialect} :
    (q.shownItems d known).Perm ((q.listedColumns known).map q.entry ++ q.otherItems) :=
  items_eq ▸ shownItems_perm_items

end Items

end QueryRecipe.Query
