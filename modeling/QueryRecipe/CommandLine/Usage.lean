import QueryRecipe.Dialect
import QueryRecipe.Text.Digits
import QueryRecipe.Text.Search

/-!
# Command lines

What a command line asks for. Options come before or after the file; a value follows its option as the
next argument, or in the same one, and does not begin with a dash. After `--` everything is an operand.
The options of the whole program may also be given after a command, and then take precedence.
-/

namespace QueryRecipe.CommandLine

/-- Why a command line asks for no command. -/
inductive Stop where
  | version
  | help
  /-- It cannot be understood. -/
  | misuse
  deriving DecidableEq, Repr

/-- How a statement is printed. -/
inductive Format where
  | sql
  | json
  deriving DecidableEq, Repr

/-- The options of the command that prints a statement. -/
structure CompileOptions where
  dialect : Option Dialect
  limit : Option UInt64
  offset : Option UInt64
  columns : List String
  count : Bool
  format : Format
  deriving DecidableEq, Repr

/-- A command. -/
inductive Command where
  | compile (file : String) (options : CompileOptions)
  | explain (file : String) (dialect : Option Dialect)
  | checkExpression (text : String)
  deriving DecidableEq, Repr

/-- A command with the options of the whole program. -/
structure Invocation where
  config : Option String
  command : Command
  deriving DecidableEq, Repr

/-- What an option does. -/
inductive SwitchKind where
  | flag
  | value (accepts : String → Bool) (repeatable : Bool)
  | stop (s : Stop)

/-- An option by its long and its short name. -/
structure Switch where
  long : String
  short : Option Char
  kind : SwitchKind

/-- The options given at one place, each with its values so far. -/
abbrev Given := List (String × List String)

/-- What is given up to some argument. -/
structure Scanned where
  given : Given := []
  /-- The option whose value must come next. -/
  pending : Option Switch := none
  /-- Whether `--` has been passed. -/
  operandsOnly : Bool := false
  /-- The only argument that is no option and no value of one. -/
  operand : Option String := none

/-- A natural number of 64 bits, perhaps with a plus sign. -/
def number? (s : String) : Option UInt64 :=
  let ds := match s.toList with
    | '+' :: r => r
    | r => r
  let n := Text.digitsValue 10 ds
  if !ds.isEmpty && ds.all Char.isDigit && n < UInt64.size then some (.ofNat n) else none

/-- The format of this name. -/
def Format.named? : String → Option Format
  | "sql" => some .sql
  | "json" => some .json
  | _ => none

/-- The options of the whole program. -/
def globalSwitches : List Switch :=
  [⟨"verbose", some 'v', .flag⟩, ⟨"config", none, .value (· ≠ "") false⟩,
    ⟨"help", some 'h', .stop .help⟩]

/-- The option that names a dialect. -/
def dialectSwitch : Switch :=
  ⟨"dialect", some 'd', .value (fun s => (Dialect.ofText? s).isSome) false⟩

/-- The options before a command. -/
def programSwitches : List Switch :=
  globalSwitches ++ [⟨"version", some 'V', .stop .version⟩]

/-- The options of the command that prints a statement. -/
def compileSwitches : List Switch :=
  globalSwitches ++ [dialectSwitch,
    ⟨"limit", some 'l', .value (fun s => (number? s).isSome) false⟩,
    ⟨"offset", some 'o', .value (fun s => (number? s).isSome) false⟩,
    ⟨"columns", some 'c', .value (fun _ => true) true⟩,
    ⟨"count", none, .flag⟩,
    ⟨"format", some 'f', .value (fun s => (Format.named? s).isSome) false⟩]

/-- The options with one more occurrence. -/
def Given.add (g : Given) (s : Switch) (value : Option String) : Except Stop Given :=
  match s.kind, value, g.lookup s.long with
  | .stop stop, none, _ => .error stop
  | .flag, none, none => .ok (g ++ [(s.long, [])])
  | .value accepts _, some v, none =>
    if accepts v then .ok (g ++ [(s.long, [v])]) else .error .misuse
  | .value accepts true, some v, some vs =>
    if accepts v then .ok ((g.filter (·.1 != s.long)) ++ [(s.long, vs ++ [v])]) else .error .misuse
  | _, _, _ => .error .misuse

namespace Scanned

/-- An occurrence of an option, with the value that stands in the same argument if there is one. -/
def occur (sc : Scanned) (s : Switch) (attached : Option String) : Except Stop Scanned :=
  match s.kind, attached with
  | .value _ _, none => .ok { sc with pending := some s }
  | _, _ => do return { sc with given := ← sc.given.add s attached }

/-- An argument with a long name, after its two dashes. -/
def long (switches : List Switch) (sc : Scanned) (body : List Char) : Except Stop Scanned :=
  let name : String := .ofList (body.takeWhile (· ≠ '='))
  let attached := match body.dropWhile (· ≠ '=') with
    | [] => none
    | _ :: v => some (String.ofList v)
  match switches.find? (·.long == name) with
  | none => .error .misuse
  | some s => sc.occur s attached

/-- An argument with short names, after its dash. The first option with a value takes the rest. -/
def shorts (switches : List Switch) (sc : Scanned) : List Char → Except Stop Scanned
  | [] => .ok sc
  | c :: rest =>
    match switches.find? (·.short == some c) with
    | none => .error .misuse
    | some s =>
      match s.kind with
      | .value _ _ =>
        let attached := match rest with
          | [] => none
          | '=' :: v => some (String.ofList v)
          | v => some (String.ofList v)
        sc.occur s attached
      | _ => do (← sc.occur s none).shorts switches rest

/-- One more operand, of which there is at most one. -/
def take (sc : Scanned) (arg : String) : Except Stop Scanned :=
  match sc.operand with
  | none => .ok { sc with operand := some arg }
  | some _ => .error .misuse

/-- One more argument that is not a command. -/
def argument (switches : List Switch) (sc : Scanned) (arg : String) : Except Stop Scanned :=
  if sc.operandsOnly then
    sc.take arg
  else
    match sc.pending, arg.toList with
    | some s, cs =>
      if cs.head? = some '-' ∧ 1 < cs.length then
        .error .misuse
      else do
        return { sc with given := ← sc.given.add s (some arg), pending := none }
    | none, ['-', '-'] => .ok { sc with operandsOnly := true }
    | none, '-' :: '-' :: body => sc.long switches body
    | none, '-' :: c :: body => sc.shorts switches (c :: body)
    | none, _ => sc.take arg

/-- What is given to a command. -/
def ofArguments (switches : List Switch) (args : List String) : Except Stop Scanned := do
  let sc ← args.foldlM (argument switches) {}
  if sc.pending.isSome then .error .misuse else return sc

/-- The operand of a command that needs one. -/
def text (sc : Scanned) : Except Stop String :=
  match sc.operand with
  | some s => .ok s
  | none => .error .misuse

/-- The operand of a command that needs the name of a file. -/
def file (sc : Scanned) : Except Stop String := do
  let s ← sc.text
  if s = "" then .error .misuse else return s

/-- The value of an option that is not repeated. -/
def value? (sc : Scanned) (name : String) : Option String :=
  (sc.given.lookup name).bind List.head?

/-- Whether a flag is given. -/
def flag (sc : Scanned) (name : String) : Bool :=
  (sc.given.lookup name).isSome

end Scanned

/-- The names of the commands. -/
def commandNames : List String :=
  ["compile", "explain", "check-expr", "help"]

/-- The command of this name with its arguments, and the options of the whole program among them. -/
def command (name : String) (args : List String) : Except Stop (Command × Scanned) := do
  match name with
  | "compile" =>
    let sc ← Scanned.ofArguments compileSwitches args
    let options : CompileOptions := {
      dialect := (sc.value? "dialect").bind Dialect.ofText?
      limit := (sc.value? "limit").bind number?
      offset := (sc.value? "offset").bind number?
      columns := ((sc.given.lookup "columns").getD []).flatMap (Text.split ',')
      count := sc.flag "count"
      format := ((sc.value? "format").bind Format.named?).getD .sql }
    return (.compile (← sc.file) options, sc)
  | "explain" =>
    let sc ← Scanned.ofArguments (globalSwitches ++ [dialectSwitch]) args
    return (.explain (← sc.file) ((sc.value? "dialect").bind Dialect.ofText?), sc)
  | "check-expr" =>
    let sc ← Scanned.ofArguments globalSwitches args
    return (.checkExpression (← sc.text), sc)
  | "help" => .error (if args.length ≤ 1 ∧ args.all commandNames.contains then .help else .misuse)
  | _ => .error .misuse

/-- The invocation from the arguments that are left, after those that `sc` holds. The path of the
configuration is the one after the command, else the one before it, else the one of the environment;
an empty path in the environment is an error wherever the command line has none. -/
def invocationFrom (environment : Option String) (sc : Scanned) :
    List String → Except Stop Invocation
  | [] => .error .misuse
  | arg :: rest => do
    let isOperand := !sc.operandsOnly && sc.pending.isNone && arg.toList.head? != some '-'
    if isOperand then
      let (command, inner) ← command arg rest
      let outer := sc.value? "config"
      let inner := inner.value? "config"
      if environment = some "" ∧ (outer.isNone ∨ inner.isNone) then .error .misuse
      else return ⟨inner <|> outer <|> environment, command⟩
    else
      let sc ← sc.argument programSwitches arg
      if sc.operand.isNone then invocationFrom environment sc rest else .error .misuse

/-- The invocation that a command line asks for. -/
def invocation (environment : Option String) (args : List String) : Except Stop Invocation :=
  invocationFrom environment {} args

end QueryRecipe.CommandLine
