import StructCli.Console.Markup
import StructCli.Console.Table

/-! # Consoles

A console shows texts with markup, tables, and records of what was noticed.
-/

namespace StructCli

structure Console where
  escape : Text → Text
  shown : Text → Text
  lines : Text → List Text
  tableLines : Table → List Text
  recordLines : (level message : Text) → List Text

namespace Console

/-- A text among markup, as it is shown. -/
def cell (console : Console) (t : Text) : Text := console.shown (console.escape t)

def markupLines (console : Console) (t : Text) : List Text := console.lines (console.shown t)

def plainRecord (level message : Text) : List Text :=
  match Text.shownLines message with
  | [] => []
  | l :: ls =>
    (Text.padTo 8 level ++ " " ++ l) :: ls.map fun l => List.replicate 9 (.scalar ' ') ++ l

/-- A terminal without colours, on which every line finds room. -/
def terminal : Console where
  escape := Markup.escape
  shown := Markup.shown
  lines := Text.shownLines
  tableLines := Table.lines
  recordLines := plainRecord

end Console

end StructCli
