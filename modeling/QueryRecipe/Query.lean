import QueryRecipe.Expr
import QueryRecipe.NameMap

/-!
# Queries under construction

A query gathers what the steps of a recipe have asked for so far. References to columns in filters and
sort terms are resolved when they are added, so they see the changes made to a column before them and
none made after. Nothing in a query depends on a dialect.
-/

namespace QueryRecipe

/-- The columns that are selected. -/
inductive Columns where
  | wildcard
  | explicit (names : List String)
  deriving DecidableEq, Repr

/-- A condition on the value of a column. -/
structure Condition where
  subject : Expr
  comparison : Comparison
  operand : Literal
  deriving DecidableEq, Repr

/-- The conditions of one step, joined by one connective. -/
structure Filter where
  connective : Connective
  conditions : List Condition
  deriving DecidableEq, Repr

/-- A term of the sort order. -/
structure SortTerm where
  subject : Expr
  direction : Direction
  deriving DecidableEq, Repr

/-- A joined table with the pairs of columns that are equal. -/
structure Join where
  kind : JoinKind
  schema : String
  table : String
  label : String
  keys : List (String × String)
  deriving DecidableEq, Repr

/-- How repeated rows are removed. -/
inductive Dedup where
  | off
  /-- Rows that are equal throughout. -/
  | rows
  /-- Rows that agree on these columns. -/
  | on (columns : List String)
  deriving DecidableEq, Repr

/-- An aggregate of a grouped query; the column `*` stands for whole rows. -/
structure AggregateColumn where
  function : Aggregate
  column : String
  label : String
  deriving DecidableEq, Repr

/-- The columns and aggregates of a grouped query. -/
structure Grouping where
  columns : List String
  aggregates : List AggregateColumn
  deriving DecidableEq, Repr

/-- A window on the rows of a result. -/
structure Page where
  limit : Option UInt64 := none
  offset : Option UInt64 := none
  deriving DecidableEq, Repr

/-- The number of rows that are passed over; to pass over none is to have no offset. -/
def Page.skip? (p : Page) : Option UInt64 :=
  p.offset.filter (0 < ·)

/-- Whether the window holds all rows. -/
def Page.isAll (p : Page) : Bool :=
  p.limit.isNone && p.skip?.isNone

/-- A table whose rows are added to the result. -/
structure Union where
  schema : String
  table : String
  all : Bool
  deriving DecidableEq, Repr

/-- A computed column: a screened expression and its name. -/
structure Added where
  expression : String
  label : String
  deriving DecidableEq, Repr

/-- The value that a column has been given in place of its own. -/
structure Transform where
  column : String
  value : Expr
  deriving DecidableEq, Repr

/-- A query under construction. -/
structure Query where
  columns : Columns := .wildcard
  /-- The name in the result of each renamed column. -/
  renames : NameMap String := ∅
  dropped : NameSet := ∅
  added : List Added := []
  /-- In the order in which the columns were first changed. -/
  transforms : List Transform := []
  filters : List Filter := []
  grouping : Option Grouping := none
  order : List SortTerm := []
  joins : List Join := []
  dedup : Dedup := .off
  /-- The window that the recipe asks for; it takes the place of the caller's. -/
  page : Option Page := none
  unions : List Union := []
  /-- The names that come first in the result, in this order. -/
  display : Option (List String) := none
  /-- Whether the columns have been chosen by a select step. -/
  selected : Bool := false
  deriving DecidableEq, Repr

namespace Query

/-- The value that `column` has been given. -/
def transform? (q : Query) (column : String) : Option Expr :=
  (q.transforms.find? (·.column == column)).map (·.value)

/-- What `column` means in a condition, a sort term or a grouping. -/
def reference (q : Query) (column : String) : Expr :=
  (q.transform? column).getD (.name column)

/-- What a further change to `column` starts from. -/
def source (q : Query) (column : String) : Expr :=
  (q.transform? column).getD (.field column)

/-- The name of `column` in the result. -/
def outputName (q : Query) (column : String) : String :=
  (q.renames.get? column).getD column

/-- The transforms with `value` given to `column`. -/
def setTransform (column : String) (value : Expr) : List Transform → List Transform
  | [] => [⟨column, value⟩]
  | t :: r => if t.column = column then ⟨column, value⟩ :: r else t :: setTransform column value r

end Query

end QueryRecipe
