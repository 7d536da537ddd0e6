import QueryRecipe.Dialect
import QueryRecipe.Toml.Reader

/-!
# Configuration

What holds where neither a recipe nor the caller says anything: a dialect, a schema, and perhaps a limit
on the rows. A configuration is kept as a TOML document; keys that mean nothing are passed over.
-/

namespace QueryRecipe

/-- A configuration. -/
structure Config where
  dialect : Dialect := .postgres
  defaultSchema : String := "public"
  defaultLimit : Option UInt64 := none
  deriving DecidableEq, Repr

namespace Config

/-- Whether a value holds nothing. -/
def isBare : Toml.Node → Bool
  | .value (.list []) | .value (.braces _ []) | .table _ [] => true
  | _ => false

/-- A dialect: its name, or a table with its name as the only key and nothing under it. -/
def dialectOf : Toml.Node → Option Dialect
  | .value (.string s) => Dialect.named? s
  | .value (.braces _ [(s, v)]) => if isBare (.value v) then Dialect.named? s else none
  | .table _ [(s, v)] => if isBare v then Dialect.named? s else none
  | _ => none

/-- A schema. -/
def schemaOf : Toml.Node → Option String
  | .value (.string s) => some s
  | _ => none

/-- A limit. -/
def limitOf : Toml.Node → Option UInt64
  | .value (.integer n) => if 0 ≤ n then some (.ofNat n.toNat) else none
  | _ => none

/-- The configuration that a document holds. -/
def ofToml (text : String) : Option Config := do
  let entries ← Toml.read text
  let setting {α : Type} (key : String) (read : Toml.Node → Option α) (default : α) : Option α :=
    match entries.lookup key with
    | none => some default
    | some v => read v
  return {
    dialect := ← setting "dialect" dialectOf .postgres
    defaultSchema := ← setting "default_schema" schemaOf "public"
    defaultLimit := ← setting "default_limit" (some <$> limitOf ·) none }

end Config

end QueryRecipe
