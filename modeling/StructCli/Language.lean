import StructCli.Path
import StructCli.Report
import StructCli.Text.Casing

/-! # Languages

The language of a source is named, or follows from the suffix of its path.
-/

namespace StructCli

inductive Language where
  | go
  deriving DecidableEq, Repr

namespace Language

def label : Language → Text
  | go => "go"

def ofName? (name : Text) : Option Language :=
  if name = Text.ofString "go" ∨ name = Text.ofString "golang" then some go else none

def ofSuffix? (suffix : Text) : Option Language :=
  if suffix = Text.ofString ".go" then some go else none

/-- The language of the source at `path`. A name that is given, and not empty, decides; letter
case does not matter. -/
def ofPath (path : Path) (name : Option Text) : Except Failure Language :=
  let name := name.getD []
  if name ≠ [] then
    match ofName? (Text.lower name.strip) with
    | some l => .ok l
    | none => .error (.unknownLanguage name)
  else
    match ofSuffix? (Text.lower path.suffix) with
    | some l => .ok l
    | none => .error (.unknownSuffix path.suffix path.render)

def ofLabel (label : Text) : Except Failure Language :=
  if label = go.label then .ok go else .error (.noReader label)

end Language

end StructCli
