import StructCli.Declaration
import StructCli.Text.Lines

/-! # Outlines

An outline says what a source file declares when it declares struct types only. Its source has one
field or type to a line, the lines of a doc as line comments above what it is about, and a blank
line before each declaration of the file.
-/

namespace StructCli.Go.Outline

/-- The lines of a doc. None of them ends in white space; none is blank at either end of the doc
or below a blank one. -/
structure DocLines where
  lines : List Text
  plain : ∀ l ∈ lines, .scalar '\n' ∉ l
  trimmed : ∀ l ∈ lines, Text.stripEnd l = l
  first : lines.head? ≠ some []
  last : lines.getLast? ≠ some []
  apart : ¬ [[], []] <:+: lines

def DocLines.none : DocLines := ⟨[], by decide, by decide, by decide, by decide, by decide⟩

/-- The name of a type, a pointer to which may be meant. -/
structure TypeName where
  pointer : Bool
  package : Option Text
  name : Text

/-- A field, which is embedded if it has no names. A tag is what stands between the backquotes. -/
structure Field where
  doc : DocLines
  names : List Text
  type : TypeName
  tag : Option Text

structure Struct where
  doc : DocLines
  name : Text
  fields : List Field

inductive Declaration where
  | single (type : Struct)
  | group (types : List Struct)

structure Package where
  doc : DocLines
  name : Text
  declarations : List Declaration

structure Indent where
  text : Text
  blank : ∀ c ∈ text, c = .scalar ' ' ∨ c = .scalar '\t'

def Indent.flush : Indent := ⟨[], by decide⟩

def Indent.twice (indent : Indent) : Indent where
  text := indent.text ++ indent.text
  blank c hc := (List.mem_append.mp hc).elim (indent.blank c) (indent.blank c)

def DocLines.text (doc : DocLines) : Text := Text.unlines doc.lines

/-- A line of a doc as a comment. A blank line has no space after the slashes. -/
def lineComment (line : Text) : Text := "//" ++ if line = [] then [] else .scalar ' ' :: line

def DocLines.source (indent : Indent) (doc : DocLines) : Text :=
  doc.lines.flatMap fun line => indent.text ++ lineComment line ++ "\n"

def TypeName.base (type : TypeName) : Text :=
  match type.package with
  | some package => package ++ "." ++ type.name
  | none => type.name

def TypeName.source (type : TypeName) : Text :=
  if type.pointer then .scalar '*' :: type.base else type.base

def tagSource (tag : Text) : Text := .scalar '`' :: tag ++ [.scalar '`']

def namesSource : List Text → Text
  | [] => []
  | name :: names => name ++ (names.flatMap fun n => (", " ++ n : Text)) ++ " "

def Field.line (f : Field) : Text :=
  namesSource f.names ++ f.type.source ++
    match f.tag with
    | some tag => .scalar ' ' :: tagSource tag
    | none => []

def Field.source (indent : Indent) (f : Field) : Text :=
  f.doc.source indent ++ indent.text ++ f.line ++ "\n"

/-- A struct type from its name on. The lines of its fields and its last line are indented. -/
def Struct.source (inner outer : Indent) (s : Struct) : Text :=
  s.name ++ " struct \x7b\n" ++ s.fields.flatMap (Field.source inner) ++ outer.text ++ "\x7d"

def Struct.member (indent : Indent) (s : Struct) : Text :=
  s.doc.source indent ++ indent.text ++ s.source indent.twice indent ++ "\n"

/-- A single type has its doc above the keyword. -/
def Declaration.doc : Declaration → DocLines
  | single s => s.doc
  | group _ => .none

def Declaration.phrase (indent : Indent) : Declaration → Text
  | single s => "type " ++ s.source indent .flush
  | group types => "type (\n" ++ types.flatMap (Struct.member indent) ++ ")"

def Declaration.source (indent : Indent) (d : Declaration) : Text :=
  d.doc.source .flush ++ d.phrase indent ++ "\n"

def Package.source (indent : Indent) (p : Package) : Text :=
  p.doc.source .flush ++ "package " ++ p.name ++ "\n" ++
    p.declarations.flatMap fun d => ("\n" ++ d.source indent : Text)

def Field.decl (f : Field) : FieldDecl :=
  { names := f.names
    doc := f.doc.text
    tag := f.tag.map tagSource
    type := f.type.source }

def Struct.decl (s : Struct) : TypeDecl :=
  { name := s.name
    doc := s.doc.text
    kind := structKind
    fields := some (s.fields.map Field.decl) }

def Declaration.types : Declaration → List Struct
  | single s => [s]
  | group types => types

/-- What is declared, the types in the order of the source. -/
def Package.decl (p : Package) : PackageDecl :=
  { name := p.name
    doc := p.doc.text
    types := (p.declarations.flatMap Declaration.types).map Struct.decl }

end StructCli.Go.Outline
