import QueryRecipe.CommandLine.Run

/-!
# Running the program

Files, the environment and the standard streams: all that the program does outside its definitions.
-/

namespace QueryRecipe.CommandLine

/-- Reads a file of the system. That a path is a folder shows only when it is read, and then the error
names no path. -/
def readSystemFile (path : String) : IO (Except FileFault String) := do
  try
    return .ok (← IO.FS.readFile path)
  catch e =>
    return .error <| match e with
      | .noFileOrDirectory .. => .missing
      | .inappropriateType none .. => .isFolder
      | .inappropriateType (some _) .. => .notFolder
      | .invalidArgument _ code _ => if code = -36 then .tooLong else .other (toString e)
      | .permissionDenied .. => .other "Permission denied (os error 13)"
      | .userError _ => .other "stream did not contain valid UTF-8"
      | e => .other (toString e)

/-- The path of the user's configuration. -/
def userConfigPath : IO (Option String) := do
  let base ← match ← IO.getEnv "XDG_CONFIG_HOME" with
    | some dir => pure (if dir.startsWith "/" then some dir else none)
    | none => pure none
  let home ← IO.getEnv "HOME"
  let base := base <|> home.map (· ++ "/.config")
  return base.map (· ++ "/recipe-sql/config.toml")

end QueryRecipe.CommandLine

open QueryRecipe.CommandLine in
/-- The program. -/
def main (args : List String) : IO UInt32 := do
  let files : Files IO := { read := readSystemFile, userConfig := ← userConfigPath }
  let outcome ← run files (← IO.getEnv "RECIPE_CONFIG") args
  IO.print outcome.output
  IO.eprint outcome.errors
  return outcome.code.toUInt32
