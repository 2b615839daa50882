import StructCli.Shell.Arguments

/-! # Requests

What the arguments of the program ask for: to compile a command from a file, or to show how a tag
is understood.
-/

namespace StructCli.Shell

inductive Format where
  | json
  | table
  deriving DecidableEq, Repr

def Format.ofName? (t : Text) : Option Format :=
  if t = Text.ofString "json" then some .json
  else if t = Text.ofString "table" then some .table
  else none

structure CompileRequest where
  path : Text
  typeName : Text
  format : Format := .json
  language : Option Text := none
  tagKey : Option Text := none

inductive Request where
  | compile (r : CompileRequest)
  | showTag (value : Text)

inductive Verb where
  | compile
  | tag
  deriving DecidableEq, Repr

def Verb.ofName? (t : Text) : Option Verb :=
  if t = Text.ofString "compile" then some .compile
  else if t = Text.ofString "tag" then some .tag
  else none

/-- The arguments up to the name of the request. -/
structure Preamble where
  verbose : Bool
  verb : Verb
  arguments : List Text

def Preamble.ofArguments? (arguments : List Text) : Option Preamble := do
  let p ← parseArguments [{ key := (), long := "verbose", short := some 'v', takesValue := false }]
    false arguments
  match p.operands with
  | [] => failure
  | verb :: rest => return ⟨!p.settings.isEmpty, ← Verb.ofName? verb, rest⟩

inductive CompileOption where
  | type
  | format
  | language
  | tagKey
  deriving DecidableEq, Repr

def compileOptions : List (OptionSpec CompileOption) :=
  [{ key := .type, long := "type", short := some 't' },
   { key := .format, long := "format", short := some 'f' },
   { key := .language, long := "language", short := some 'l' },
   { key := .tagKey, long := "tag-key" }]

def CompileRequest.ofArguments? (arguments : List Text) : Option CompileRequest := do
  let p ← parseArguments compileOptions true arguments
  let typeName ← p.last? .type
  let format ← match p.last? .format with
    | some t => Format.ofName? t
    | none => some .json
  match p.operands with
  | [path] =>
    return { path, typeName, format, language := p.last? .language, tagKey := p.last? .tagKey }
  | _ => failure

def tagOfArguments? (arguments : List Text) : Option Text := do
  let p ← parseArguments (κ := Unit) [] true arguments
  match p.operands with
  | [value] => return value
  | _ => failure

def Preamble.request? (p : Preamble) : Option Request :=
  match p.verb with
  | .compile => (CompileRequest.ofArguments? p.arguments).map .compile
  | .tag => (tagOfArguments? p.arguments).map .showTag

end StructCli.Shell
