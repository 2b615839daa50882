import StructCli.Text.Basic

/-! # Lines

Two notions of a line: pieces between line feeds, and pieces ended by any of the line boundaries
of Unicode.
-/

namespace StructCli

namespace CodePoint

/-- Line feed, carriage return, vertical tab, form feed, the separators U+001C to U+001E, next
line, line separator and paragraph separator. -/
def isLineBoundary (c : CodePoint) : Bool :=
  let n := c.value
  (10 ≤ n && n ≤ 13) || (28 ≤ n && n ≤ 30) || n == 0x85 || n == 0x2028 || n == 0x2029

end CodePoint

namespace Text

/-- The lines of a text, each ended by a boundary or by the end of the text; a carriage return
and the line feed after it are one boundary. A text that ends in a boundary has no empty last
line. -/
def boundedLines : Text → List Text
  | [] => []
  | .scalar '\r' :: .scalar '\n' :: r => [] :: boundedLines r
  | c :: r =>
    if c.isLineBoundary then [] :: boundedLines r
    else match boundedLines r with
      | [] => [[c]]
      | l :: ls => (c :: l) :: ls

def lines (t : Text) : List Text := splitAt (.scalar '\n') t

def unlines (ls : List Text) : Text := joinWith [.scalar '\n'] ls

end Text

end StructCli
