import QueryRecipe.Compile
import QueryRecipe.Json.Printer
import QueryRecipe.Json.Reader
import QueryRecipe.Step.Encoding

/-!
# Recipes

A recipe names a source table and the steps to apply to it, and may fix the dialect. It is kept as a
JSON document.
-/

namespace QueryRecipe

/-- The literal that a text holds. -/
def Literal.ofText (text : String) : Json.Read Literal := do
  ofJson (← Json.read text)

/-- The steps that a text holds as a list. -/
def Step.listOfText (text : String) : Json.Read (List Step) := do
  Json.asList ofJson (← Json.read text)

/-- A recipe. -/
structure Recipe where
  schema : String := "public"
  table : String
  steps : List Step := []
  dialect : Option Dialect := none
  deriving DecidableEq, Repr

namespace Recipe

/-- The dialect of a recipe as a field of its document. A dialect that is neither a name nor an object
with one member spoils the document itself. -/
def dialectOfJson : Json → Json.Read Dialect
  | .string s => Json.asChoice Dialect.named? Json.isNull (.string s)
  | .object ((s, v) :: rest) => do
    let d ← Json.asChoice Dialect.named? Json.isNull (.object [(s, v)])
    if rest.isEmpty then return d else .error .malformed
  | _ => .error .malformed

/-- The names of the fields of a recipe. -/
def fieldNames : List String :=
  ["source_schema", "source_table", "steps", "dialect"]

/-- The fields of a recipe that have been read. -/
structure Draft where
  schema : Option String := none
  table : Option String := none
  steps : Option (List Step) := none
  dialect : Option (Option Dialect) := none

/-- What is read of a field; none may be given twice. -/
def Draft.once {α : Type} (given : Option α) (read : Json → Json.Read α) (j : Json) :
    Json.Read (Option α) :=
  if given.isSome then .error .shape else some <$> read j

/-- The fields with one more member. A member that is no field is passed over. -/
def Draft.add (d : Draft) (member : String × Json) : Json.Read Draft := do
  match member with
  | ("source_schema", j) => return { d with schema := ← once d.schema Json.asString j }
  | ("source_table", j) => return { d with table := ← once d.table Json.asString j }
  | ("steps", j) => return { d with steps := ← once d.steps (Json.asList Step.ofJson) j }
  | ("dialect", j) => return { d with dialect := ← once d.dialect (Json.asOptional dialectOfJson) j }
  | _ => return d

/-- The recipe with these fields; only the table must be given. -/
def Draft.recipe (d : Draft) : Json.Read Recipe :=
  match d.table with
  | none => .error .shape
  | some table => .ok {
      schema := d.schema.getD "public"
      table
      steps := d.steps.getD []
      dialect := d.dialect.getD none }

/-- The recipe with these members. They are read in their order, so of several faults the first one
counts. -/
def ofMembers (members : List (String × Json)) : Json.Read Recipe := do
  let d : Draft ← members.foldlM Draft.add {}
  d.recipe

/-- The recipe written as a JSON value. A list that goes on after the last field spoils the document
itself. -/
def ofJson : Json → Json.Read Recipe
  | .object members => ofMembers members
  | .list vs => do
    let r ← ofMembers (fieldNames.zip vs)
    if vs.length ≤ fieldNames.length then return r else .error .malformed
  | _ => .error .shape

/-- The recipe that a text holds. Nobody looks at members that are no fields. -/
def ofText (text : String) : Json.Read Recipe := do
  ofJson (← Json.readSkipping (fun name => !fieldNames.contains name) text)

/-- The object that a recipe is written as; a dialect that is not fixed is left out. -/
def toJson (r : Recipe) : Json :=
  .object <| [("source_schema", .string r.schema), ("source_table", .string r.table),
    ("steps", .list (r.steps.map Step.toJson))] ++
      r.dialect.elim [] fun d => [("dialect", .string d.name)]

/-- The compact text of a recipe. -/
def text (r : Recipe) : String :=
  r.toJson.text

/-- The dialect of a recipe, or else another one. -/
def dialectOr (r : Recipe) (d : Dialect) : Dialect :=
  r.dialect.getD d

/-- The recipe with one more step. -/
def step (r : Recipe) (s : Step) : Recipe :=
  { r with steps := r.steps ++ [s] }

/-- The text of the statement in a dialect, for the caller's window and known columns. -/
def sqlWith (r : Recipe) (d : Dialect) (page : Page) (known : Option (List String)) :
    Except CompileFault String :=
  (·.text d) <$> compile d r.table r.schema r.steps page known

/-- The text of the statement in the recipe's own dialect, or else PostgreSQL. -/
def sql (r : Recipe) : Except CompileFault String :=
  r.sqlWith (r.dialectOr .postgres) {} none

/-- The text of the statement that counts the rows. -/
def countSql (r : Recipe) (d : Dialect) : Except CompileFault String :=
  (·.text d) <$> compileCount d r.table r.schema r.steps

end Recipe

end QueryRecipe
