import SchemaForge.CommandLine.Run

/-!
# The program

Reads the arguments, the files that they lead to and the environment, and prints what
`Invocation.run` gives: the text of the command to standard output, an error to standard error.
-/

namespace SchemaForge

/-- What the operating system says about a file that it does not give out. -/
def readFailure : IO.Error → FileState
  | .noFileOrDirectory .. | .noSuchThing .. => .missing
  | .inappropriateType _ code _ => if code = 20 then .missing else .unreadable .isDirectory
  | .permissionDenied .. => .unreadable (.other "Permission denied (os error 13)")
  | error => .unreadable (.other (toString error))

/-- Looks at a file. -/
def readState (path : String) : IO FileState := do
  match ← (IO.FS.readBinFile path).toBaseIO with
  | .ok bytes => return .ofBytes bytes
  | .error error => return readFailure error

/-- Looks at the files at some paths; no others are there. -/
def readFiles (paths : List String) : IO Files := do
  let states ← paths.mapM fun path => do return (path, ← readState path)
  return fun path => (states.lookup path).getD .missing

/-- The text for arguments that name nothing to run. -/
def usage : String := Text.joinLines [
  "Usage: [OPTIONS] <COMMAND>",
  "",
  "Commands:",
  "  generate  Generate schema sources for a backend",
  "  resolve   Show the dependency-ordered table set a selection expands to",
  "  presets   List the built-in presets",
  "  tables    List the tables available in the catalog",
  "  packages  List the npm packages a backend needs"]

end SchemaForge

open SchemaForge in
/-- Runs the command line. -/
def main (arguments : List String) : IO UInt32 := do
  match Invocation.parse arguments with
  | .error fault =>
    if fault.exitCode = 0 then IO.println usage else IO.eprintln usage
    return UInt32.ofNat fault.exitCode
  | .ok invocation =>
    let files ← readFiles invocation.paths
    match invocation.run files (← IO.getEnv "DATABASE_URL") with
    | .ok text =>
      IO.println text
      return 0
    | .error error =>
      IO.eprintln ("Error: " ++ error.message)
      return 1
