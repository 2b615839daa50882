import StructCli.Command.Help
import StructCli.Command.Name
import StructCli.Declaration
import StructCli.Directive.Tag
import StructCli.Go.StructTag
import StructCli.Text.Utf8

/-! # Commands

A struct type describes a command: each exported field is an input, described by the field's tag.
-/

namespace StructCli

/-- A source as bytes or as text. -/
inductive Source where
  | bytes (source : List UInt8)
  | text (source : Text)

def Source.encode : Source → Except Failure (List UInt8)
  | bytes source => .ok source
  | text source => (Utf8.encode source).mapError fun (first, last, half) => .surrogates first last half

structure CommandInput where
  fieldName : Text
  tag : Text := []
  doc : Text := []
  type : Text
  deriving DecidableEq, Repr

structure Command where
  name : Text
  package : Text
  type : Text
  help : Text := []
  description : Text := []
  inputs : List CommandInput := []
  deriving DecidableEq, Repr

namespace Command

/-- The value of a key in a tag literal. A tag that cannot be read counts as absent; the
directives in a value are read for their notices only. -/
def tagOfLiteral (field : Text) (literal : Option Text) (key : Text) : Report Text :=
  match literal with
  | none => do
    Report.note (.noStructTag field)
    return []
  | some literal =>
    match Go.Literal.unquote literal with
    | .error .overflow => Report.fail (.literal .overflow)
    | .error e => do
      Report.note (.tagUnreadable literal field e)
      return []
    | .ok structTag =>
      match Go.StructTag.lookup structTag key with
      | .error e => Report.fail (.literal e)
      | .ok none => do
        Report.note (.noTag field key)
        return []
      | .ok (some value) => do
        Report.note (.tagFound field key value)
        let _ ← ArgSpec.ofTag (some value)
        let _ ← FlagSpec.ofTag (some value)
        return value

def inputOfExported (key name : Text) (field : FieldDecl) : Report CommandInput := do
  Report.note (.fieldCompiling name)
  Report.note (if field.doc = [] then .fieldNoDoc name else .fieldDoc name field.doc)
  let tag ← tagOfLiteral name field.tag key
  return { fieldName := name, tag, doc := field.doc, type := field.type }

/-- The input for a field, if the field is exported under one name. -/
def inputOfField (key : Text) (field : FieldDecl) : Report (Option CommandInput) :=
  match field.names with
  | [] => do
    Report.note (.fieldNameless field.type)
    return none
  | [name] =>
    if field.exported then return some (← inputOfExported key name field)
    else do
      Report.note (.fieldUnexported name)
      return none
  | names => do
    Report.note (.fieldManyNames names)
    return none

def inputsOfFields (key : Text) : List FieldDecl → Report (List CommandInput)
  | [] => return []
  | field :: fields => do
    let input ← inputOfField key field
    let inputs ← inputsOfFields key fields
    return input.toList ++ inputs

def inputsOfType (key : Text) (type : TypeDecl) : Report (List CommandInput) :=
  inputsOfFields key (type.fields.getD [])

/-- The command that a type of a package describes. A type that is missing, or no struct, gives a
command without inputs. -/
def ofType (package : PackageDecl) (typeName key : Text) : Report Command := do
  let name := nameOfPackage package.name
  let type := package.findType typeName
  let inputs ←
    match type with
    | some t => if t.isStruct then inputsOfType key t else pure []
    | none => pure []
  let help ← helpOfDoc package.doc package.name name
  return {
    name
    package := package.name
    type := typeName
    help
    description := Text.strip (type.elim [] TypeDecl.doc)
    inputs }

/-- The command of a struct type, which the declarations in `filename` have to hold. -/
def load (declarations : Report PackageDecl) (filename typeName key : Text) : Report Command := do
  let package ← declarations
  match package.findType typeName with
  | none => Report.fail (.type typeName (.missing filename))
  | some t =>
    if t.isStruct then ofType package typeName key
    else Report.fail (.type typeName (.notStruct filename t.kind))

/-- Turns a source without declarations, and a type that is not found, into a notice. -/
def recover (filename : Text) (r : Report Command) : Report (Option Command) :=
  match r.outcome with
  | .ok c => ⟨r.notices, .ok (some c)⟩
  | .error (.source _ fault) => ⟨r.notices ++ [.sourceUnparsable filename fault], .ok none⟩
  | .error (.type name fault) => ⟨r.notices ++ [.typeNotFound filename name fault], .ok none⟩
  | .error e => ⟨r.notices, .error e⟩

/-- The command of a struct type, if the declarations hold it. -/
def find (declarations : Report PackageDecl) (filename typeName key : Text) :
    Report (Option Command) :=
  recover filename (load declarations filename typeName key)

/-- The command of a struct type, which a source has to hold. -/
def loadSource (parser : DeclarationParser) (source : Source) (filename typeName key : Text) :
    Report Command := do
  let bytes ← Report.ofExcept source.encode
  load (parser filename bytes) filename typeName key

/-- The command of a struct type, if a source holds it. -/
def findSource (parser : DeclarationParser) (source : Source) (filename typeName key : Text) :
    Report (Option Command) :=
  recover filename (loadSource parser source filename typeName key)

end Command

end StructCli
