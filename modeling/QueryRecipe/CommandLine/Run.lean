import QueryRecipe.CommandLine.Files
import QueryRecipe.CommandLine.Usage
import QueryRecipe.Config
import QueryRecipe.Recipe.Document

/-!
# The program

What the program prints for a command line. A recipe that cannot be compiled ends it with code 1, and a
command line that cannot be understood or an expression that is refused with code 2.
-/

namespace QueryRecipe.CommandLine

/-- What the program leaves behind. -/
structure Outcome where
  code : Nat
  output : String := ""
  errors : String := ""
  deriving DecidableEq, Repr

/-- Why a command fails. -/
inductive Failure where
  | configFile (f : FileFault)
  | config
  | recipeFile (path : String) (f : FileFault)
  | notJson (path : String)
  | notRecipe (path : String)
  | compile (f : CompileFault)
  deriving DecidableEq, Repr

/-- The text of a failure. -/
def Failure.message : Failure → String
  | .configFile f => s!"IO error: {f.message}: {f.message}"
  | .config => "Configuration error: not a configuration"
  | .recipeFile path f => s!"failed to read {path}: {f.message}"
  | .notJson path => s!"{path} is not valid JSON"
  | .notRecipe path => s!"{path} is not a valid recipe"
  | .compile f => f.message

/-- The outcome of a command that printed `output` and then failed. -/
def Failure.outcome (f : Failure) (output : String) : Outcome :=
  ⟨1, output, s!"Error: {f.message}\n"⟩

/-- The configuration in a text. -/
def configOf (text : Except FileFault String) : Except Failure Config :=
  match text with
  | .error f => .error (.configFile f)
  | .ok text =>
    match Config.ofToml text with
    | some c => .ok c
    | none => .error .config

/-- The recipe in the text of a file. -/
def recipeOf (path : String) (config : Config) (text : Except FileFault String) :
    Except Failure Recipe := do
  let text ← text.mapError (.recipeFile path)
  let j ← (Recipe.documentOf text).mapError fun _ => .notJson path
  (Recipe.ofDocument config.defaultSchema j).mapError fun _ => .notRecipe path

/-- What the command that prints a statement does with a recipe. -/
def printStatement (o : CompileOptions) (config : Config) (r : Recipe) : Except Failure String := do
  let d := o.dialect.getD (r.dialectOr config.dialect)
  let known := if o.columns.isEmpty then none else some o.columns
  let sql ← (if o.count then r.countSql d
    else r.sqlWith d ⟨o.limit <|> config.defaultLimit, o.offset⟩ known).mapError .compile
  return match o.format with
    | .sql => sql ++ "\n"
    | .json => (Json.object [("dialect", .string d.name), ("sql", .string sql)]).pretty ++ "\n"

/-- A line for each step, with its index set to the right. -/
def stepLines (steps : List Step) : String :=
  let line (s : Step) (i : Nat) : String :=
    let n := Text.naturalText i
    "    " ++ (if n.length < 2 then " " else "") ++ n ++ ". " ++ s.tag ++ "\n"
  String.join ((steps.zipIdx).map fun (s, i) => line s i)

/-- What is said about a recipe before its statement. -/
def description (r : Recipe) (d : Dialect) : String :=
  "Recipe Explanation\n\n  Source: " ++ r.schema ++ "." ++ r.table ++ "\n  Dialect: " ++ d.name ++
    "\n" ++ (if r.steps.isEmpty then "  (no steps)\n" else "  Steps:\n" ++ stepLines r.steps) ++ "\n"

/-- The outcome of the command that explains a recipe. -/
def explain (dialect : Option Dialect) (config : Config) (r : Recipe) : Outcome :=
  let d := dialect.getD (r.dialectOr config.dialect)
  let head := description r d
  match r.sqlWith d {} none with
  | .ok sql => ⟨0, head ++ "Generated SQL:\n  " ++ sql ++ "\n", ""⟩
  | .error f => (Failure.compile f).outcome head

/-- The outcome of the command that checks an expression. -/
def check (text : String) : Outcome :=
  match screen text with
  | .ok accepted => ⟨0, s!"✓ {accepted}\n", ""⟩
  | .error r => ⟨2, s!"✗ {r.message}\n", ""⟩

/-- The version of the program. -/
def versionLine : String := "recipe 0.3.0\n"

/-- How the program is used. -/
def usage : String :=
  "Usage: recipe [-v] [--config FILE] compile FILE [-d DIALECT] [-l LIMIT] [-o OFFSET]\n" ++
  "                                           [-c COLUMNS] [--count] [-f sql|json]\n" ++
  "       recipe [-v] [--config FILE] explain FILE [-d DIALECT]\n" ++
  "       recipe check-expr EXPRESSION\n"

variable {m : Type → Type} [Monad m]

/-- The configuration: that of the given path, else the first that exists of `recipe.toml` and the
user's own, else the one that says nothing. -/
def loadConfig (files : Files m) (path : Option String) : m (Except Failure Config) := do
  match path with
  | some path => return configOf (← files.read path)
  | none => search ("recipe.toml" :: files.userConfig.toList)
where
  search : List String → m (Except Failure Config)
    | [] => return .ok {}
    | path :: rest => do
      match ← files.read path with
      | .error f => if f.isPresent then return configOf (.error f) else search rest
      | .ok text => return configOf (.ok text)

/-- Loads the configuration and the recipe of a file and goes on with them. -/
def withRecipe (files : Files m) (config : Option String) (path : String)
    (go : Config → Recipe → Outcome) : m Outcome := do
  match ← loadConfig files config with
  | .error f => return f.outcome ""
  | .ok config =>
    match recipeOf path config (← files.read path) with
    | .error f => return f.outcome ""
    | .ok r => return go config r

/-- The outcome of an invocation. -/
def Invocation.run (files : Files m) (i : Invocation) : m Outcome :=
  match i.command with
  | .compile path options => withRecipe files i.config path fun config r =>
    match printStatement options config r with
    | .ok text => ⟨0, text, ""⟩
    | .error f => f.outcome ""
  | .explain path dialect => withRecipe files i.config path (explain dialect)
  | .checkExpression text => return check text

/-- The outcome of a command line; `environment` is the path of the configuration that the environment
gives. -/
def run (files : Files m) (environment : Option String) (args : List String) : m Outcome :=
  match invocation environment args with
  | .ok i => i.run files
  | .error .version => return ⟨0, versionLine, ""⟩
  | .error .help => return ⟨0, usage, ""⟩
  | .error .misuse => return ⟨2, "", usage⟩

end QueryRecipe.CommandLine
