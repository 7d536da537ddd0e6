import QueryRecipe.Sql
import QueryRecipe.Word

/-!
# Column expressions

What a column stands for while a recipe is applied: at first the column itself, and then, one inside
the other, the changes that the steps made to it. An expression belongs to no dialect until it is
written.
-/

namespace QueryRecipe

/-- What takes the place of a replaced value. -/
inductive Replacement where
  | literal (v : Literal)
  /-- A screened expression. -/
  | expression (e : String)
  deriving DecidableEq, Repr

/-- The phrase of a replacement. -/
def Replacement.sql : Replacement → Sql
  | .literal v => Sql.literal v
  | .expression e => [.expression e]

/-- A change to the value of a column. -/
inductive Change where
  /-- To a data type, which is a screened expression. -/
  | cast (dataType : String)
  /-- Every occurrence of a text becomes another. -/
  | substitute (old : String) (new : Replacement)
  /-- An absent value becomes another. -/
  | coalesce (new : Replacement)
  | trim (side : TrimSide)
  | recase (mode : LetterCase)
  /-- An absent value, or also an empty text, becomes another. -/
  | fill (value : Literal) (emptyToo : Bool)
  deriving DecidableEq, Repr

/-- A phrase with its first letter in upper case and the others in lower case. -/
def Sql.titleCase (d : Dialect) (e : Sql) : Sql :=
  match d with
  | .postgres => .fixed "INITCAP(" :: e ++ [.fixed ")"]
  | .mysql =>
    .fixed "CONCAT(UPPER(LEFT(" :: e ++ .fixed ", 1)), LOWER(SUBSTRING(" :: e ++ [.fixed ", 2)))"]
  | .sqlite =>
    .fixed "UPPER(SUBSTR(" :: e ++ .fixed ", 1, 1)) || LOWER(SUBSTR(" :: e ++ [.fixed ", 2))"]

/-- The phrase of a change to what `e` says. -/
def Change.sql (d : Dialect) (e : Sql) : Change → Sql
  | .cast dataType => .fixed "CAST(" :: e ++ [.fixed " AS ", .expression dataType, .fixed ")"]
  | .substitute old new =>
    .fixed "REPLACE(" :: e ++ [.fixed ", ", .string old, .fixed ", "] ++ new.sql ++ [.fixed ")"]
  | .coalesce new => .fixed "COALESCE(" :: e ++ .fixed ", " :: new.sql ++ [.fixed ")"]
  | .trim side => .fixed side.function :: .fixed "(" :: e ++ [.fixed ")"]
  | .recase .upper => .fixed "UPPER(" :: e ++ [.fixed ")"]
  | .recase .lower => .fixed "LOWER(" :: e ++ [.fixed ")"]
  | .recase .title => Sql.titleCase d e
  | .fill value emptyToo =>
    let empty := if emptyToo then .fixed " OR " :: e ++ [.fixed " = ", .string ""] else []
    .fixed "CASE WHEN " :: e ++ .fixed " IS NULL" :: empty ++ .fixed " THEN " :: Sql.literal value ++
      .fixed " ELSE " :: e ++ [.fixed " END"]

/-- The value of a column. -/
inductive Expr where
  /-- The column of the source table, unless its name says otherwise. -/
  | field (column : String)
  /-- The column by its name alone. -/
  | name (column : String)
  | changed (e : Expr) (change : Change)
  deriving DecidableEq, Repr

/-- The phrase of an expression. -/
def Expr.sql (d : Dialect) : Expr → Sql
  | .field column => Sql.qualified column
  | .name column => Sql.dotted column
  | .changed e change => change.sql d (e.sql d)

/-- The phrase that applies an aggregate function to an argument. -/
def Aggregate.sql (f : Aggregate) (argument : Sql) : Sql :=
  match f with
  | .countDistinct => .fixed "COUNT(DISTINCT " :: argument ++ [.fixed ")"]
  | f => .function f.title :: .fixed "(" :: argument ++ [.fixed ")"]

end QueryRecipe
