import StructCli.Console.Cell

/-! # Tables

A table has a header and rows of cells in a frame. A column is as wide as its widest line, and a
row as high as its highest cell.
-/

namespace StructCli

structure Table where
  header : List Text
  rows : List (List Text)

namespace Table

/-- The four corners and lines of a part of the frame. -/
structure Rule where
  left : Char
  line : Char
  cross : Char
  right : Char

def topRule : Rule := ⟨'┏', '━', '┳', '┓'⟩
def headerRule : Rule := ⟨'┡', '━', '╇', '┩'⟩
def bottomRule : Rule := ⟨'└', '─', '┴', '┘'⟩

def widths (t : Table) : List Nat :=
  (t.header :: t.rows).foldl
    (fun ws cells => List.zipWith max ws (cells.map fun c =>
      ((Text.shownLines c).map Text.width).foldl max 0))
    (t.header.map fun _ => 0)

def rule (r : Rule) (widths : List Nat) : Text :=
  .scalar r.left ::
    Text.joinWith [.scalar r.cross] (widths.map fun w =>
      List.replicate (w + 2) (.scalar r.line)) ++ [.scalar r.right]

def rowLines (upright : Char) (widths : List Nat) (cells : List Text) : List Text :=
  let columns := cells.map Text.shownLines
  let height := (columns.map List.length).foldl max 1
  (List.range height).map fun i =>
    .scalar upright ::
      Text.joinWith [.scalar upright] (List.zipWith
        (fun w (column : List Text) =>
          .scalar ' ' :: Text.padTo w ((column[i]?).getD []) ++ [.scalar ' ']) widths columns) ++
      [.scalar upright]

def lines (t : Table) : List Text :=
  rule topRule t.widths :: rowLines '┃' t.widths t.header ++
    rule headerRule t.widths :: t.rows.flatMap (rowLines '│' t.widths) ++
    [rule bottomRule t.widths]

end Table

end StructCli
