import QueryRecipe.Text.Blank
import QueryRecipe.Text.CaseMap

/-!
# Dialects of SQL

The three dialects and their names. A name given by hand is trimmed and may be in any letter case; a
name in a document is taken as it stands.
-/

namespace QueryRecipe

/-- A dialect of SQL. -/
inductive Dialect where
  | postgres
  | mysql
  | sqlite
  deriving DecidableEq, Repr, Inhabited

namespace Dialect

/-- The name that a dialect is written with. -/
def name : Dialect → String
  | .postgres => "postgres"
  | .mysql => "mysql"
  | .sqlite => "sqlite"

/-- The dialect with exactly this name or other name. -/
def named? : String → Option Dialect
  | "postgres" | "postgresql" | "pg" => some .postgres
  | "mysql" | "mariadb" => some .mysql
  | "sqlite" | "sqlite3" => some .sqlite
  | _ => none

/-- A name given by hand, as it is looked up. -/
def normalized (s : String) : String :=
  Text.lower (Text.trim s)

/-- The dialect that a name given by hand means. -/
def ofText? (s : String) : Option Dialect :=
  named? (normalized s)

/-- What is said about a name given by hand that means no dialect. -/
def unknownMessage (s : String) : String :=
  s!"Unknown dialect '{normalized s}'. Expected: postgres, mysql, sqlite"

/-- Whether `SELECT DISTINCT ON` is available. -/
def hasDistinctOn : Dialect → Bool
  | .postgres => true
  | .mysql | .sqlite => false

end Dialect

end QueryRecipe
