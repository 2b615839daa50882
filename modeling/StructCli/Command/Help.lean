import StructCli.Report

/-! # Help texts

The help of a command is the package comment, without the word that opens it, about the command
in place of the package, on one line.
-/

namespace StructCli

namespace Text

/-- Every run of white space becomes one space. -/
def collapse : Text → Text
  | [] => []
  | c :: r =>
    if c.isBlank then
      match r with
      | [] => [.scalar ' ']
      | d :: _ => if d.isBlank then collapse r else .scalar ' ' :: collapse r
    else c :: collapse r

end Text

namespace Command

def helpMarker : Text := "Package "

/-- Puts the command in the place of the package that opens the text. -/
def renamePackage (doc package command : Text) : Text :=
  match Text.dropPrefix? doc package with
  | some r => command ++ r
  | none => doc

def helpOfDoc (doc package command : Text) : Report Text := do
  let doc ←
    match Text.dropPrefix? doc helpMarker with
    | some r => pure r
    | none => do
      Report.note (.helpMalformed package)
      pure doc
  if doc = [] then
    Report.note (.helpMissing package)
    return []
  else return (Text.collapse (renamePackage doc package command)).strip

end Command

end StructCli
