import QueryRecipe.Statement
import QueryRecipe.Statement.TrailingName

/-!
# The statement of a query

How a query becomes a statement: the items of its select list, the order in which they are shown, the
sort order that `DISTINCT ON` requires, and the window.
-/

namespace QueryRecipe

namespace Query

/-- The item for a column that keeps its place: its changed value under its name in the result, or the
column itself, with its new name if it has one. A dotted column is shown as it is. -/
def columnItem (q : Query) (column : String) : SelectItem :=
  if Sql.isDotted column then
    ⟨.expr (.name column), none⟩
  else
    match q.transform? column with
    | some e => ⟨.expr e, some (q.outputName column)⟩
    | none => ⟨.expr (.field column), q.renames.get? column⟩

/-- The item for a column that the query groups by. -/
def groupedItem (q : Query) (column : String) : SelectItem :=
  match q.transform? column with
  | some e => ⟨.expr e, some (q.outputName column)⟩
  | none => ⟨.expr (.name column), none⟩

/-- The item for an aggregate. -/
def aggregateItem (q : Query) (a : AggregateColumn) : SelectItem :=
  let argument := if a.column = "*" then none else some (q.reference a.column)
  ⟨.aggregate a.function argument, some a.label⟩

/-- The items for the columns that are selected. A wildcard with changed columns is spelled out with
the columns that the caller knows; if none are known, only the changed columns are shown. -/
def columnItems (q : Query) (known : Option (List String)) : List SelectItem :=
  match q.columns, q.transforms, known with
  | .explicit names, _, _ => names.map q.columnItem
  | .wildcard, [], _ => [⟨.everything, none⟩]
  | .wildcard, _, some names => (names.filter fun c => !q.dropped.contains c).map q.columnItem
  | .wildcard, transforms, none => transforms.map fun t => q.columnItem t.column

/-- The items of the select list before they are put in order. -/
def items (q : Query) (known : Option (List String)) : List SelectItem :=
  match q.grouping with
  | some g => g.columns.map q.groupedItem ++ g.aggregates.map q.aggregateItem
  | none => q.columnItems known ++ q.added.map fun a => ⟨.written a.expression, some a.label⟩

/-- For each name in turn the first remaining entry with that name, and then all other entries in their
order. -/
def arrange {α : Type} (nameOf : α → String) : List String → List α → List α
  | [], entries => entries
  | name :: names, entries =>
    match entries.find? (nameOf · == name) with
    | some e => e :: arrange nameOf names (entries.eraseP (nameOf · == name))
    | none => arrange nameOf names entries

/-- The items of the select list in the order in which they are shown. -/
def shownItems (q : Query) (d : Dialect) (known : Option (List String)) : List SelectItem :=
  match q.display with
  | none => q.items known
  | some names => arrange (fun i => TrailingName.ofText ((i.sql d).spelling d)) names (q.items known)

/-- Whether the text of a sort term begins with the text of a reference and a blank. -/
def sortsBy (d : Dialect) (e : Expr) (t : SortTerm) : Bool :=
  ((e.sql d).spelling d ++ [' ']).isPrefixOf ((t.sql d).spelling d)

/-- The sort terms with one for each of the references in front: the first remaining term that sorts by
it, or else an ascending one. -/
def leadBy (d : Dialect) : List Expr → List SortTerm → List SortTerm
  | [], terms => terms
  | e :: es, terms =>
    match terms.find? (sortsBy d e) with
    | some t => t :: leadBy d es (terms.eraseP (sortsBy d e))
    | none => ⟨e, .ascending⟩ :: leadBy d es terms

/-- How the select list begins. -/
def head (q : Query) (d : Dialect) : Head :=
  match q.dedup with
  | .off => .all
  | .rows => .distinct
  | .on columns => if d.hasDistinctOn then .distinctOn (columns.map q.reference) else .all

/-- What the rows are grouped by: the columns of the grouping, or without one the columns on which
rows are told apart, in dialects that have no `DISTINCT ON`. -/
def groupBy (q : Query) (d : Dialect) : List Expr :=
  match q.grouping, q.dedup with
  | some g, _ => g.columns.map q.reference
  | none, .on columns => if d.hasDistinctOn then [] else columns.map q.reference
  | none, _ => []

/-- The sort order. With `DISTINCT ON` its columns come first. -/
def orderBy (q : Query) (d : Dialect) : List SortTerm :=
  match q.dedup with
  | .on columns => if d.hasDistinctOn then leadBy d (columns.map q.reference) q.order else q.order
  | _ => q.order

/-- The statement of a query on a source table, with the caller's window and the columns that the
caller knows the table to have. -/
def statement (q : Query) (d : Dialect) (source : Source) (page : Page)
    (known : Option (List String)) : Statement where
  head := q.head d
  items := q.shownItems d known
  source := source
  joins := q.joins
  filters := q.filters
  groupBy := q.groupBy d
  orderBy := q.orderBy d
  page := q.page.getD page
  unions := q.unions

end Query

end QueryRecipe
