import QueryRecipe.Query.Edit
import QueryRecipe.Step

/-!
# Handling steps

The handler of a step checks its fields and writes to the query under construction, one after the other
in the order in which that is done. A handler that finds something wrong breaks off where it stands, and
the query stays as it has been written until then.
-/

namespace QueryRecipe

/-- What a step lacks. -/
inductive Defect where
  | noColumns
  | incompleteRename
  | incompleteColumn
  | noTable
  | noJoinKeys
  | incompleteJoinKey
  | aggregateWithoutColumn (function : Aggregate)
  | emptyGrouping
  | noColumn
  | noDataType
  | noMode
  deriving DecidableEq, Repr

/-- The text of a defect. -/
def Defect.message : Defect → String
  | .noColumns => "'columns' must list at least one column"
  | .incompleteRename => "rename mapping entries need both a column and an alias"
  | .incompleteColumn => "requires both 'name' and 'expression'"
  | .noTable => "missing 'table'"
  | .noJoinKeys => "requires at least one 'on' key pair"
  | .incompleteJoinKey => "join keys need both 'left' and 'right'"
  | .aggregateWithoutColumn function => s!"aggregation {function.title} needs a 'column'"
  | .emptyGrouping => "requires 'columns' or 'aggregations'"
  | .noColumn => "missing 'column'"
  | .noDataType => "missing 'data_type'"
  | .noMode => "missing 'mode'"

/-- Why a step cannot be applied. -/
inductive StepFault where
  | rejected (r : Rejection)
  | defective (d : Defect)
  deriving DecidableEq, Repr

/-- A part of handling a step: it may read and write the query, and it may break off. -/
abbrev Handler (α : Type) : Type :=
  EStateM StepFault Query α

/-- The schema that a step names, or else that of the recipe. -/
def Step.schemaOr (schema : String) (s : Option String) : String :=
  (givenWord? s).getD schema

namespace Handler

/-- Makes an edit of the query, which stands for all that a step writes without a check in between. -/
def write (e : Edit) : Handler Unit :=
  modify (·.edit e)

/-- Goes on with a word or an expression if it has been accepted. -/
def check {α : Type} : Except Rejection α → Handler α
  | .ok a => pure a
  | .error r => throw (.rejected r)

/-- Goes on with the trimmed text of something that a step must have. -/
def need (d : Defect) (s : String) : Handler String :=
  match Text.nonblank? s with
  | some t => pure t
  | none => throw (.defective d)

/-- Chooses columns, at least one. -/
def select (columns : List String) : Handler Unit := do
  let columns := Text.nonblanks columns
  if columns = [] then throw (.defective .noColumns)
  write (.select columns)

/-- Renames one column. -/
def renameEntry (entry : String × String) : Handler Unit := do
  let column ← need .incompleteRename entry.1
  let label ← need .incompleteRename entry.2
  write (.rename column label)

/-- Adds a computed column. -/
def addColumn (name expression : Option String) : Handler Unit :=
  match givenWord? name, givenWord? expression with
  | some name, some expression => do
    let expression ← check (screen expression)
    write (.add ⟨expression, name⟩)
  | _, _ => throw (.defective .incompleteColumn)

/-- Reads a condition of a filter; one without a column is passed over. -/
def test? (c : FilterCondition) : Handler (Option Test) :=
  match Text.nonblank? c.column with
  | none => pure none
  | some _ => do
    let comparison ← check (Comparison.ofText (c.comparison.getD ""))
    return some ⟨c.column, comparison, c.operand⟩

/-- Adds a filter, unless it has no conditions. -/
def filter (conditions : List FilterCondition) (connective : Option String) : Handler Unit := do
  let connective ← check (Connective.ofText connective)
  let tests ← conditions.filterMapM test?
  unless tests = [] do
    write (.filter connective tests)

/-- Adds a sort term; a key without a column is passed over. -/
def sortKey (key : SortKey) : Handler Unit :=
  match Text.nonblank? key.column with
  | none => pure ()
  | some _ => do
    let direction ← check (Direction.ofText key.direction)
    write (.sort key.column direction)

/-- Reads a key of a join. -/
def joinKey (key : JoinKey) : Handler (String × String) := do
  let left ← need .incompleteJoinKey key.left
  let right ← need .incompleteJoinKey key.right
  return (left, right)

/-- Joins a table. A cross join has no keys. -/
def join (recipeSchema table : String) (schema kind label : Option String) (keys : List JoinKey)
    (columns : List String) : Handler Unit := do
  let kind ← check (JoinKind.ofText kind)
  let table ← need .noTable table
  if kind ≠ .cross ∧ keys = [] then throw (.defective .noJoinKeys)
  let keys ← if kind = .cross then pure [] else keys.mapM joinKey
  write (.join kind (Step.schemaOr recipeSchema schema) table (givenWord? label) keys
    (Text.nonblanks columns))

/-- Reads an aggregate; only counting may leave out the column and then counts rows. -/
def aggregate (a : Aggregation) : Handler AggregateColumn := do
  let function ← check (Aggregate.ofText a.function)
  let column ← match Text.nonblank? a.column with
    | some c => pure c
    | none =>
      if function = .count then pure "*"
      else throw (.defective (.aggregateWithoutColumn function))
  return ⟨function, column, (givenWord? a.label).getD (function.defaultLabel column)⟩

/-- Groups by columns, with aggregates; there must be one of either. -/
def groupBy (columns : List String) (aggregations : List Aggregation) : Handler Unit := do
  let columns := Text.nonblanks columns
  let aggregates ← aggregations.mapM aggregate
  if columns = [] ∧ aggregates = [] then throw (.defective .emptyGrouping)
  write (.group ⟨columns, aggregates⟩)

/-- Removes repeated rows. -/
def deduplicate (columns : List String) : Handler Unit :=
  match Text.nonblanks columns with
  | [] => write (.dedup .rows)
  | columns => write (.dedup (.on columns))

/-- Adds the rows of another table. -/
def union (recipeSchema table : String) (schema : Option String) (all : Bool) : Handler Unit := do
  let table ← need .noTable table
  write (.union ⟨Step.schemaOr recipeSchema schema, table, all⟩)

/-- Changes the column of this name. -/
def change (column : String) (reading : Handler Change) : Handler Unit := do
  let column ← need .noColumn column
  let change ← reading
  write (.change column change)

/-- Reads a cast. -/
def cast (dataType : String) : Handler Change := do
  if (Text.nonblank? dataType).isNone then throw (.defective .noDataType)
  let dataType ← check (screen dataType)
  return .cast dataType

/-- Reads a replacement. -/
def replace (old : Option String) (new : Literal) (expression : Option String) : Handler Change := do
  let new ← match givenWord? expression with
    | some e => Replacement.expression <$> check (screen e)
    | none => pure (.literal new)
  match old with
  | some old => return .substitute old new
  | none => return .coalesce new

/-- Reads a change of letter case. -/
def recase (mode : Option LetterCase) : Handler Change :=
  match mode with
  | some mode => pure (.recase mode)
  | none => throw (.defective .noMode)

end Handler

/-- The handler of a step of a recipe with this schema. -/
def Step.handle (schema : String) : Step → Handler Unit
  | .select columns => Handler.select columns
  | .rename mapping => mapping.entries.forM Handler.renameEntry
  | .reorder columns => Handler.write (.reorder (Text.nonblanks columns))
  | .cast column dataType => Handler.change column (Handler.cast dataType)
  | .addColumn name expression => Handler.addColumn name expression
  | .dropColumn columns => Handler.write (.drop (Text.nonblanks columns))
  | .filter conditions connective => Handler.filter conditions connective
  | .sort keys => keys.forM Handler.sortKey
  | .deduplicate columns => Handler.deduplicate columns
  | .limit count offset => Handler.write (.page ⟨count, offset⟩)
  | .replace column old new expression => Handler.change column (Handler.replace old new expression)
  | .trim column side => Handler.change column (pure (.trim side))
  | .recase column mode => Handler.change column (Handler.recase mode)
  | .fillNull column value emptyToo => Handler.change column (pure (.fill value emptyToo))
  | .join table joinSchema kind label keys columns =>
    Handler.join schema table joinSchema kind label keys columns
  | .union table unionSchema all => Handler.union schema table unionSchema all
  | .groupBy columns aggregations => Handler.groupBy columns aggregations

end QueryRecipe
