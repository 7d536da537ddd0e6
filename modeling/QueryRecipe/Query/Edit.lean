import QueryRecipe.Query

/-!
# Edits of a query

An edit is one thing that a step asks for once its names are trimmed and its words checked. Every edit
applies to every query.
-/

namespace QueryRecipe

/-- A condition whose column has not been resolved. -/
structure Test where
  column : String
  comparison : Comparison
  operand : Literal
  deriving DecidableEq, Repr

/-- One change to a query under construction. -/
inductive Edit where
  | select (columns : List String)
  | rename (column label : String)
  | drop (columns : List String)
  | add (column : Added)
  | filter (connective : Connective) (tests : List Test)
  | sort (column : String) (direction : Direction)
  /-- Without an alias the joined table is numbered. -/
  | join (kind : JoinKind) (schema table : String) (label : Option String)
      (keys : List (String × String)) (columns : List String)
  | group (grouping : Grouping)
  | dedup (d : Dedup)
  | page (p : Page)
  | reorder (columns : List String)
  | union (u : Union)
  | change (column : String) (c : Change)
  deriving DecidableEq, Repr

namespace Query

/-- The alias of the next joined table when a recipe gives none. -/
def nextLabel (q : Query) : String :=
  "j" ++ Text.naturalText (q.joins.length + 1)

/-- The names that a list of columns keeps when `gone` is dropped; a wildcard stays. -/
def Columns.without (gone : List String) : Columns → Columns
  | .wildcard => .wildcard
  | .explicit names => .explicit (names.filter fun n => !gone.contains n)

/-- The columns of a joined table, added to an explicit list under its alias; a wildcard stays. -/
def Columns.joined (label : String) (columns : List String) : Columns → Columns
  | .wildcard => .wildcard
  | .explicit names => .explicit (names ++ columns.map fun c => label ++ "." ++ c)

/-- The query after an edit. -/
def edit (q : Query) : Edit → Query
  | .select columns => { q with columns := .explicit columns, selected := true }
  | .rename column label => { q with renames := q.renames.insert column label }
  | .drop columns =>
    { q with dropped := q.dropped.insertAll columns, columns := Columns.without columns q.columns }
  | .add column => { q with added := q.added ++ [column] }
  | .filter connective tests =>
    let conditions := tests.map fun t => ⟨q.reference t.column, t.comparison, t.operand⟩
    { q with filters := q.filters ++ [⟨connective, conditions⟩] }
  | .sort column direction => { q with order := q.order ++ [⟨q.reference column, direction⟩] }
  | .join kind schema table label keys columns =>
    let label := label.getD q.nextLabel
    { q with
      joins := q.joins ++ [⟨kind, schema, table, label, keys⟩]
      columns := Columns.joined label columns q.columns }
  | .group grouping => { q with grouping := some grouping }
  | .dedup d => { q with dedup := d }
  | .page p => { q with page := some p }
  | .reorder columns =>
    { q with
      columns :=
        if q.selected then q.columns
        else .explicit (columns.filter fun c => !q.dropped.contains c)
      display := some columns }
  | .union u => { q with unions := q.unions ++ [u] }
  | .change column c =>
    { q with transforms := setTransform column (.changed (q.source column) c) q.transforms }

/-- The query after a list of edits. -/
def edits (q : Query) (es : List Edit) : Query :=
  es.foldl edit q

end Query

end QueryRecipe
