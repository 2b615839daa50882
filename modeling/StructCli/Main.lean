import StructCli.Shell.Run

/-! # The program

Reads its arguments, the environment and the file that is asked for, and writes what a run
writes.
-/

namespace StructCli

/-- Reads the file that the arguments ask for, if they ask for one and it can be read. -/
def readRequested (arguments : List Text) : IO FileReader := do
  let request := do (← Shell.Preamble.ofArguments? arguments).request?
  match request with
  | some (.compile r) =>
    let path := Path.ofText r.path
    match path.render.toString? with
    | none => return fun _ => none
    | some name =>
      match ← (IO.FS.readBinFile name).toBaseIO with
      | .ok bytes => return fun p => if p = path then some bytes.toList else none
      | .error _ => return fun _ => none
  | _ => return fun _ => none

/-- The character that is written for a code point. A surrogate has none of its own. -/
def writtenChar : CodePoint → Char
  | .scalar c => c
  | .surrogate _ => '\uFFFD'

def writeLines (stream : IO.FS.Stream) (lines : List Text) : IO Unit :=
  lines.forM fun l => stream.putStrLn (String.ofList (l.map writtenChar))

def usage : List Text :=
  ["usage: cliche [-v] compile PATH -t TYPE [-f json|table] [-l LANGUAGE] [--tag-key KEY]",
   "       cliche [-v] tag VALUE"]

end StructCli

open StructCli in
def main (arguments : List String) : IO UInt32 := do
  let env : Environment := {
    tagKey := (← IO.getEnv "CLICHE_TAG_KEY").map Text.ofString
    logLevel := (← IO.getEnv "CLICHE_LOG_LEVEL").map Text.ofString }
  let arguments := arguments.map Text.ofString
  match Shell.run env (← readRequested arguments) arguments with
  | .refused => do
    writeLines (← IO.getStderr) usage
    return 2
  | .failed e => do
    writeLines (← IO.getStderr) [e.message]
    return 1
  | .finished o => do
    writeLines (← IO.getStdout) o.stdout
    writeLines (← IO.getStderr) o.stderr
    return UInt32.ofNat o.code
