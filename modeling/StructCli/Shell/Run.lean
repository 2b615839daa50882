import StructCli.Console.Terminal
import StructCli.Files
import StructCli.Json
import StructCli.Settings
import StructCli.Shell.Request

/-! # Runs

A run of the program ends with an exit code and what it has written, or is refused for its
arguments, or fails.
-/

namespace StructCli.Shell

/-- The lines that a run writes, each without its line feed. -/
structure Output where
  code : Nat := 0
  stdout : List Text := []
  stderr : List Text := []

inductive Result where
  | finished (o : Output)
  | refused
  | failed (e : Failure)

/-- What a run relies on: the reading of its arguments, a console, and a parser of sources. -/
structure Platform where
  preamble? : List Text → Option Preamble := Preamble.ofArguments?
  request? : Preamble → Option Request := Preamble.request?
  console : Console := .terminal
  parse : Go.TreeParser := Go.readTree

def logLines (console : Console) (threshold : Threshold) (ns : List Notice) : List Text :=
  (ns.filter fun n => threshold ≤ n.severity.rank).flatMap fun n =>
    console.recordLines n.severity.label n.message

def errorLines (console : Console) (message : Text) : List Text :=
  console.markupLines ("[red]" ++ console.escape message ++ "[/red]")

def written {α : Type} (write : α → Except Numeral.TooLong Text) (spec : Option α) : Report Text :=
  match spec with
  | none => return []
  | some a => Report.ofExcept ((write a).mapError Failure.unwritable)

/-- The row of an input: how its tag is understood, beside its name, type and doc. -/
def inputRow (console : Console) (i : CommandInput) : Report (List Text) := do
  let arg ← ArgSpec.ofTag (some i.tag)
  let flag ← FlagSpec.ofTag (some i.tag)
  let arg ← written ArgSpec.write arg
  return [i.fieldName, i.type, arg, flag.elim [] FlagSpec.render,
    (defaultOfTag (some i.tag)).getD [], i.doc].map console.cell

def inputRows (console : Console) : List CommandInput → Report (List (List Text))
  | [] => return []
  | i :: is => do
    let row ← inputRow console i
    let rows ← inputRows console is
    return row :: rows

def inputHeader : List Text := ["field", "type", "arg", "flag", "default", "doc"]

def commandLines (console : Console) (c : Command) : Report (List Text) := do
  let rows ← inputRows console c.inputs
  return console.markupLines
      ("[bold]" ++ console.escape c.name ++ "[/bold] (" ++ console.escape c.package ++ "." ++
        console.escape c.type ++ ")") ++
    (if c.help = [] then [] else console.markupLines (console.escape c.help)) ++
    (if c.description = [] then []
     else console.markupLines ("[dim]" ++ console.escape c.description ++ "[/dim]")) ++
    console.tableLines ⟨inputHeader, rows⟩ ++
    ["(" ++ Text.ofNat c.inputs.length ++ " inputs)"]

def formatted (console : Console) (format : Format) (c : Command) : Report (List Text) :=
  match format with
  | .json => do return Text.lines (← Report.ofExcept c.toJsonText)
  | .table => commandLines console c

/-- Failures that a request to compile reports as a message. -/
def isReported : Failure → Bool
  | .literal .overflow | .type .. | .unencodable .. => false
  | _ => true

def runCompile (platform : Platform) (read : FileReader) (settings : Settings)
    (threshold : Threshold) (r : CompileRequest) : Result :=
  let console := platform.console
  let path := Path.ofText r.path
  let command := Command.ofFile read path path.render r.typeName r.language
    (r.tagKey.getD settings.tagKey) platform.parse
  let log := logLines console threshold command.notices
  match command.outcome with
  | .error e =>
    if isReported e then
      .finished { code := 1, stderr := log ++ errorLines console e.message }
    else .failed e
  | .ok none =>
    let message := "Could not compile type " ++ r.typeName ++ " from " ++ path.render
    .finished { code := 1, stderr := log ++ errorLines console message }
  | .ok (some c) =>
    let shown := formatted console r.format c
    match shown.outcome with
    | .error e => .failed e
    | .ok lines =>
      .finished { stdout := lines, stderr := log ++ logLines console threshold shown.notices }

def tagHeader : List Text := ["directive", "raw", "parsed"]

def tagTable (console : Console) (value : Text) : Report Table := do
  let raw := Directives.ofTag (some value)
  let arg ← ArgSpec.ofTag (some value)
  let flag ← FlagSpec.ofTag (some value)
  let arg ← written ArgSpec.describe arg
  let cell := console.cell
  return ⟨tagHeader,
    [["arg", cell raw.arg, cell arg],
     ["flag", cell raw.flag, cell (flag.elim [] FlagSpec.describe)],
     ["default", cell raw.default, cell ((defaultOfTag (some value)).getD [])]]⟩

def runTag (console : Console) (threshold : Threshold) (value : Text) : Result :=
  let table := tagTable console value
  match table.outcome with
  | .error e => .failed e
  | .ok t =>
    .finished {
      stdout := console.tableLines t
      stderr := logLines console threshold table.notices }

/-- The threshold of a run. A verbose run shows everything and reads no setting. -/
def thresholdOf (settings : Settings) (verbose : Bool) : Except Failure Threshold :=
  if verbose then .ok Severity.debug.rank else Threshold.ofName settings.logLevel

def run (env : Environment) (read : FileReader) (arguments : List Text)
    (platform : Platform := {}) : Result :=
  let settings := Settings.ofEnvironment env
  match platform.preamble? arguments with
  | none => .refused
  | some p =>
    match thresholdOf settings p.verbose with
    | .error e => .failed e
    | .ok threshold =>
      match platform.request? p with
      | none => .refused
      | some (.compile r) => runCompile platform read settings threshold r
      | some (.showTag value) => runTag platform.console threshold value

end StructCli.Shell
