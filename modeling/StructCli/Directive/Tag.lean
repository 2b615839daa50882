import StructCli.Report

/-! # Tags

A tag is a list of components between semicolons. A component that begins with the marker of a
directive gives its value, the last one of a kind wins, and all other components are skipped.
-/

namespace StructCli

namespace DirectiveKind

def valueIn? (k : DirectiveKind) (component : Text) : Option Text :=
  (Text.dropPrefix? component.strip k.marker).map Text.strip

end DirectiveKind

namespace Directives

def component? (component : Text) : Option (DirectiveKind × Text) :=
  DirectiveKind.all.findSome? fun k => (k.valueIn? component).map (k, ·)

def addComponent (d : Directives) (component : Text) : Directives :=
  match component? component with
  | some (k, v) => d.set v k
  | none => d

def components (tag : Text) : List Text := Text.splitAt (.scalar ';') tag

def ofTag : Option Text → Directives
  | none => {}
  | some tag => (components tag).foldl addComponent {}

def mentions (k : DirectiveKind) : Option Text → Bool
  | none => false
  | some tag => (components tag).any fun c => k.marker.isPrefixOf c.strip

end Directives

/-- Reads the directive of a kind. A directive without a value, or with a malformed one, is left
out and noticed. -/
def readDirective {α : Type} (k : DirectiveKind) (ofValue : Text → Except DirectiveError α)
    (tag : Option Text) : Report (Option α) :=
  let v := (Directives.ofTag tag).get k
  if v = [] then
    if Directives.mentions k tag then do
      Report.note (.directiveEmpty k (tag.getD []))
      return none
    else return none
  else match ofValue v with
    | .ok a => return some a
    | .error (.malformed _ _ reason) => do
      Report.note (.directiveIgnored k (tag.getD []) reason)
      return none
    | .error e => Report.fail (.directive e)

def ArgSpec.ofTag : Option Text → Report (Option ArgSpec) := readDirective .arg ArgSpec.ofValue

def FlagSpec.ofTag : Option Text → Report (Option FlagSpec) :=
  readDirective .flag FlagSpec.ofValue

/-- The default value as written, if there is one. -/
def defaultOfTag (tag : Option Text) : Option Text :=
  let v := (Directives.ofTag tag).default
  if v = [] then none else some v

end StructCli
