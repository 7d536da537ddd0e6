import QueryRecipe.Statement.OfQuery
import QueryRecipe.Step.Handle

/-!
# Compiling recipes

The handlers of the steps are run one after the other on the empty query; the first fault ends the
compilation. The query is then turned into the statement of a dialect.
-/

namespace QueryRecipe

/-- Why a recipe cannot be compiled. -/
inductive CompileFault where
  /-- The source table has no name. -/
  | source
  /-- A step is wrong; it is named by its position and kind. -/
  | step (index : Nat) (tag : String) (fault : StepFault)
  deriving DecidableEq, Repr

/-- The text of a fault. -/
def CompileFault.message : CompileFault → String
  | .source => "Invalid source: source table name is empty"
  | .step index tag (.rejected r) => s!"Step {Text.naturalText index} ({tag}): {r.clause}"
  | .step index tag (.defective d) => s!"Step {Text.naturalText index} ({tag}) is malformed: {d.message}"

namespace Query

/-- The query after a step, and what is wrong with the step. -/
def apply (schema : String) (q : Query) (s : Step) : Query × Option StepFault :=
  match (s.handle schema).run q with
  | .ok () q => (q, none)
  | .error fault q => (q, some fault)

/-- The query after steps of which the first has this index. -/
def applyFrom (schema : String) (index : Nat) (q : Query) : List Step → Except CompileFault Query
  | [] => .ok q
  | s :: rest =>
    match q.apply schema s with
    | (_, some fault) => .error (.step index s.tag fault)
    | (q, none) => applyFrom schema (index + 1) q rest

/-- The query of a list of steps. -/
def ofSteps (schema : String) (steps : List Step) : Except CompileFault Query :=
  applyFrom schema 0 {} steps

end Query

/-- The statement that a source table and steps compile to. -/
def compile (d : Dialect) (table schema : String) (steps : List Step) (page : Page)
    (known : Option (List String)) : Except CompileFault Sql := do
  match Text.nonblank? table with
  | none => .error .source
  | some table =>
    let schema := Text.trim schema
    let q ← Query.ofSteps schema steps
    return (q.statement d ⟨schema, table⟩ page known).sql d

/-- The statement that counts the rows. -/
def compileCount (d : Dialect) (table schema : String) (steps : List Step) :
    Except CompileFault Sql :=
  Sql.counted <$> compile d table schema steps {} none

end QueryRecipe
