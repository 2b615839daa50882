import StructCli.Text.Casing

/-! # Declarations

What a package declares, as far as commands need it: its types, and the fields of its structs.
-/

namespace StructCli

/-- A field of a struct. An embedded field has no names. The tag is the literal as written. -/
structure FieldDecl where
  names : List Text := []
  doc : Text := []
  tag : Option Text := none
  type : Text
  deriving DecidableEq, Repr

/-- A field is exported if it has one name and that begins with an upper case letter. -/
def FieldDecl.exported (f : FieldDecl) : Bool :=
  match f.names with
  | [c :: _] => c.isUpper
  | _ => false

structure TypeDecl where
  name : Text
  doc : Text := []
  kind : Text
  fields : Option (List FieldDecl) := none
  deriving DecidableEq, Repr

def structKind : Text := "struct_type"

def TypeDecl.isStruct (t : TypeDecl) : Bool := t.kind = structKind && t.fields.isSome

structure PackageDecl where
  name : Text
  doc : Text := []
  types : List TypeDecl := []
  deriving DecidableEq, Repr

def PackageDecl.findType (p : PackageDecl) (name : Text) : Option TypeDecl :=
  p.types.find? (·.name = name)

end StructCli
