import QueryRecipe.Literal
import QueryRecipe.NameMap
import QueryRecipe.Word

/-!
# Steps of a recipe

A step asks for one change to a table. Its fields are held as the recipe gives them: names are not
trimmed yet and words not checked, so a step can be kept, shown and written again whatever is wrong
with it.
-/

namespace QueryRecipe

/-- A condition of a filter step. -/
structure FilterCondition where
  column : String := ""
  comparison : Option String := none
  operand : Literal := .null
  deriving DecidableEq, Repr

/-- A key of a sort step. -/
structure SortKey where
  column : String := ""
  direction : Option String := none
  deriving DecidableEq, Repr

/-- A pair of columns that a join step sets equal: the left one belongs to the source table, the right
one to the joined table. -/
structure JoinKey where
  left : String := ""
  right : String := ""
  deriving DecidableEq, Repr

/-- An aggregate of a group-by step. -/
structure Aggregation where
  column : String := ""
  function : Option String := none
  label : Option String := none
  deriving DecidableEq, Repr

/-- A step of a recipe. -/
inductive Step where
  | select (columns : List String)
  | rename (mapping : NameMap String)
  | reorder (columns : List String)
  | cast (column dataType : String)
  | addColumn (name expression : Option String)
  | dropColumn (columns : List String)
  | filter (conditions : List FilterCondition) (connective : Option String)
  | sort (keys : List SortKey)
  | deduplicate (columns : List String)
  | limit (count offset : Option UInt64)
  /-- The new value is the literal, or the expression when there is one. -/
  | replace (column : String) (old : Option String) (new : Literal) (expression : Option String)
  | trim (column : String) (side : TrimSide)
  | recase (column : String) (mode : Option LetterCase)
  /-- With `emptyToo` an empty text is filled like an absent value. -/
  | fillNull (column : String) (value : Literal) (emptyToo : Bool)
  | join (table : String) (schema kind label : Option String) (keys : List JoinKey)
      (columns : List String)
  | union (table : String) (schema : Option String) (all : Bool)
  | groupBy (columns : List String) (aggregations : List Aggregation)
  deriving DecidableEq, Repr

/-- The name of the kind of a step. -/
def Step.tag : Step → String
  | .select .. => "select"
  | .rename .. => "rename"
  | .reorder .. => "reorder"
  | .cast .. => "cast"
  | .addColumn .. => "add_column"
  | .dropColumn .. => "drop_column"
  | .filter .. => "filter"
  | .sort .. => "sort"
  | .deduplicate .. => "deduplicate"
  | .limit .. => "limit"
  | .replace .. => "replace"
  | .trim .. => "trim"
  | .recase .. => "case"
  | .fillNull .. => "fill_null"
  | .join .. => "join"
  | .union .. => "union"
  | .groupBy .. => "group_by"

end QueryRecipe
