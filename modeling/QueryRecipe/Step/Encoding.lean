import QueryRecipe.Step

/-!
# Steps as JSON

A step is written as an object whose member `type` names its kind, followed by its fields. It is read
from such an object with the members in any order, or from a list of the kind and the fields in their
order.
-/

namespace QueryRecipe

open Json (Read)

/-- The string or `null`. -/
def Json.ofOptional (s : Option String) : Json :=
  s.elim .null .string

/-- The strings as a list. -/
def Json.ofStrings (xs : List String) : Json :=
  .list (xs.map .string)

/-- The number or `null`. -/
def Json.ofCount (n : Option UInt64) : Json :=
  n.elim .null fun n => .int n.toNat

namespace FilterCondition

/-- The condition written as a record. -/
def ofJson (j : Json) : Read FilterCondition := do
  let r ← Json.record 3 j
  return {
    column := ← r.field 0 ["column"] Json.asString ""
    comparison := ← r.field 1 ["operator"] (Json.asOptional Json.asString) none
    operand := ← r.field 2 ["value"] Literal.ofJson .null }

/-- The record of a condition. -/
def toJson (c : FilterCondition) : Json :=
  .object [("column", .string c.column), ("operator", .ofOptional c.comparison),
    ("value", c.operand.toJson)]

end FilterCondition

namespace SortKey

/-- The sort key written as a record. -/
def ofJson (j : Json) : Read SortKey := do
  let r ← Json.record 2 j
  return {
    column := ← r.field 0 ["column"] Json.asString ""
    direction := ← r.field 1 ["direction"] (Json.asOptional Json.asString) none }

/-- The record of a sort key. -/
def toJson (k : SortKey) : Json :=
  .object [("column", .string k.column), ("direction", .ofOptional k.direction)]

end SortKey

namespace JoinKey

/-- The join key written as a record. -/
def ofJson (j : Json) : Read JoinKey := do
  let r ← Json.record 2 j
  return {
    left := ← r.field 0 ["left"] Json.asString ""
    right := ← r.field 1 ["right"] Json.asString "" }

/-- The record of a join key. -/
def toJson (k : JoinKey) : Json :=
  .object [("left", .string k.left), ("right", .string k.right)]

end JoinKey

namespace Aggregation

/-- The aggregate written as a record. -/
def ofJson (j : Json) : Read Aggregation := do
  let r ← Json.record 3 j
  return {
    column := ← r.field 0 ["column"] Json.asString ""
    function := ← r.field 1 ["function"] (Json.asOptional Json.asString) none
    label := ← r.field 2 ["alias"] (Json.asOptional Json.asString) none }

/-- The record of an aggregate. -/
def toJson (a : Aggregation) : Json :=
  .object [("column", .string a.column), ("function", .ofOptional a.function),
    ("alias", .ofOptional a.label)]

end Aggregation

/-- A map from names to strings; of a name given twice the last value counts. -/
def NameMap.ofJson : Json → Read (NameMap String)
  | .object members => do
    let entries ← members.mapM fun m => do return (m.1, ← Json.asString m.2)
    return .ofList entries
  | _ => .error .shape

namespace Step

/-- The most fields that a step of the given kind has; `none` when there is no such kind. -/
def arity? : String → Option Nat
  | "select" | "rename" | "reorder" | "drop_column" | "sort" | "deduplicate" => some 1
  | "cast" | "add_column" | "filter" | "limit" | "trim" | "case" | "group_by" => some 2
  | "fill_null" | "union" => some 3
  | "replace" => some 4
  | "join" => some 6
  | _ => none

/-- The step of the given kind with the fields of a record. -/
def ofRecord (tag : String) (r : Json.Record) : Read Step := do
  let strings := Json.asList Json.asString
  let optional := Json.asOptional Json.asString
  match tag with
  | "select" => return .select (← r.field 0 ["columns"] strings [])
  | "rename" => return .rename (← r.field 0 ["mapping"] NameMap.ofJson ∅)
  | "reorder" => return .reorder (← r.field 0 ["columns"] strings [])
  | "cast" =>
    return .cast (← r.field 0 ["column"] Json.asString "")
      (← r.field 1 ["data_type", "target_type", "to"] Json.asString "")
  | "add_column" =>
    return .addColumn (← r.field 0 ["name"] optional none) (← r.field 1 ["expression"] optional none)
  | "drop_column" => return .dropColumn (← r.field 0 ["columns"] strings [])
  | "filter" =>
    return .filter (← r.field 0 ["conditions"] (Json.asList FilterCondition.ofJson) [])
      (← r.field 1 ["logic"] optional none)
  | "sort" => return .sort (← r.field 0 ["columns"] (Json.asList SortKey.ofJson) [])
  | "deduplicate" => return .deduplicate (← r.field 0 ["columns"] strings [])
  | "limit" =>
    return .limit (← r.field 0 ["count"] (Json.asOptional Json.asUInt64) none)
      (← r.field 1 ["offset"] (Json.asOptional Json.asUInt64) none)
  | "replace" =>
    return .replace (← r.field 0 ["column"] Json.asString "") (← r.field 1 ["old_value"] optional none)
      (← r.field 2 ["new_value"] Literal.ofJson .null) (← r.field 3 ["expression"] optional none)
  | "trim" =>
    return .trim (← r.field 0 ["column"] Json.asString "")
      (← r.field 1 ["side"] (Json.asChoice TrimSide.named? Json.isNothing) .both)
  | "case" =>
    return .recase (← r.field 0 ["column"] Json.asString "")
      (← r.field 1 ["mode"] (Json.asOptional (Json.asChoice LetterCase.named? Json.isNothing)) none)
  | "fill_null" =>
    return .fillNull (← r.field 0 ["column"] Json.asString "")
      (← r.field 1 ["value"] Literal.ofJson .null) (← r.field 2 ["include_empty"] Json.asBool true)
  | "join" =>
    return .join (← r.field 0 ["table"] Json.asString "") (← r.field 1 ["schema"] optional none)
      (← r.field 2 ["join_type"] optional none) (← r.field 3 ["alias"] optional none)
      (← r.field 4 ["on"] (Json.asList JoinKey.ofJson) [])
      (← r.field 5 ["select_columns"] strings [])
  | "union" =>
    return .union (← r.field 0 ["table"] Json.asString "") (← r.field 1 ["schema"] optional none)
      (← r.field 2 ["all"] Json.asBool false)
  | "group_by" =>
    return .groupBy (← r.field 0 ["columns"] strings [])
      (← r.field 1 ["aggregations"] (Json.asList Aggregation.ofJson) [])
  | _ => .error .shape

/-- The step whose fields are written as `j`. -/
def ofFields (tag : String) (j : Json) : Read Step :=
  match arity? tag with
  | none => .error .shape
  | some n => do ofRecord tag (← Json.record n j)

/-- The step written as an object or a list. -/
def ofJson : Json → Read Step
  | .object members =>
    match members.filter (·.1 == "type") with
    | [(_, .string tag)] => ofFields tag (.object (members.filter (·.1 != "type")))
    | _ => .error .shape
  | .list (.string tag :: fields) => ofFields tag (.list fields)
  | _ => .error .shape

/-- The fields of a step in their order. -/
def fields : Step → List (String × Json)
  | .select columns | .reorder columns | .dropColumn columns | .deduplicate columns =>
    [("columns", .ofStrings columns)]
  | .rename mapping => [("mapping", .object (mapping.entries.map fun e => (e.1, .string e.2)))]
  | .cast column dataType => [("column", .string column), ("data_type", .string dataType)]
  | .addColumn name expression =>
    [("name", .ofOptional name), ("expression", .ofOptional expression)]
  | .filter conditions connective =>
    [("conditions", .list (conditions.map FilterCondition.toJson)),
      ("logic", .ofOptional connective)]
  | .sort keys => [("columns", .list (keys.map SortKey.toJson))]
  | .limit count offset => [("count", .ofCount count), ("offset", .ofCount offset)]
  | .replace column old new expression =>
    [("column", .string column), ("old_value", .ofOptional old), ("new_value", new.toJson),
      ("expression", .ofOptional expression)]
  | .trim column side => [("column", .string column), ("side", .string side.name)]
  | .recase column mode =>
    [("column", .string column), ("mode", .ofOptional (mode.map LetterCase.name))]
  | .fillNull column value emptyToo =>
    [("column", .string column), ("value", value.toJson), ("include_empty", .bool emptyToo)]
  | .join table schema kind label keys columns =>
    [("table", .string table), ("schema", .ofOptional schema), ("join_type", .ofOptional kind),
      ("alias", .ofOptional label), ("on", .list (keys.map JoinKey.toJson)),
      ("select_columns", .ofStrings columns)]
  | .union table schema all =>
    [("table", .string table), ("schema", .ofOptional schema), ("all", .bool all)]
  | .groupBy columns aggregations =>
    [("columns", .ofStrings columns), ("aggregations", .list (aggregations.map Aggregation.toJson))]

/-- The object that a step is written as. -/
def toJson (s : Step) : Json :=
  .object (("type", .string s.tag) :: s.fields)

end Step

end QueryRecipe
