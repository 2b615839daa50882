import StructCli.Text.Lines
import StructCli.Text.Property.Width

/-! # Cells of a terminal

How many columns a text takes, and what of it is shown: some control characters are left out, and
tabs go to the next multiple of eight columns.
-/

namespace StructCli

namespace CodePoint

def width (c : CodePoint) : Nat :=
  let n := c.value
  if n < 32 then 0
  else if n < 127 then 1
  else if n < 160 then 0
  else if Property.zeroWidthRanges.any fun r => r.1 ≤ n && n ≤ r.2 then 0
  else if Property.doubleWidthRanges.any fun r => r.1 ≤ n && n ≤ r.2 then 2
  else 1

/-- Bell, backspace, vertical tab, form feed and carriage return are not shown. -/
def isShown (c : CodePoint) : Bool :=
  let n := c.value
  !(n = 7 || n = 8 || n = 11 || n = 12 || n = 13)

end CodePoint

namespace Text

def width (t : Text) : Nat := t.foldr (fun c n => c.width + n) 0

/-- A line with blanks in the place of tabs, from the given column on. -/
def expandTabs (column : Nat) : Text → Text
  | [] => []
  | c :: r =>
    if c = .scalar '\t' then
      let blanks := 8 - column % 8
      List.replicate blanks (.scalar ' ') ++ expandTabs (column + blanks) r
    else c :: expandTabs (column + c.width) r

def shownLines (t : Text) : List Text :=
  (Text.lines (t.filter CodePoint.isShown)).map (expandTabs 0)

def padTo (n : Nat) (t : Text) : Text := t ++ List.replicate (n - t.width) (.scalar ' ')

end Text

end StructCli
