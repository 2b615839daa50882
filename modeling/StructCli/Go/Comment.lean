import StructCli.Text.Lines

/-! # Comment text

The text of a group of comments: their lines without comment markers and tool directives, with
blank lines only between other lines and never two in a row.
-/

namespace StructCli.Go.Comment

def isToolChar (c : CodePoint) : Bool :=
  (97 ≤ c.value && c.value ≤ 122) || c.isAsciiDigit

/-- A tool directive is a word, a colon and a character of a word, or one of three words and a
space. -/
def isToolDirective (body : Text) : Bool :=
  (match body.takeWhile isToolChar, body.dropWhile isToolChar with
    | [], _ => false
    | _, .scalar ':' :: c :: _ => isToolChar c
    | _, _ => false) ||
  ["line ", "extern ", "export "].any fun w => (Text.ofString w).isPrefixOf body

/-- The lines of a comment. A line comment loses one leading space, and is left out if it is a
tool directive. -/
def rawLines (comment : Text) : List Text :=
  match Text.dropPrefix? comment "//" with
  | some body =>
    if isToolDirective body then []
    else match body with
      | .scalar ' ' :: r => [r]
      | _ => [body]
  | none => Text.boundedLines (comment.drop 2).dropLast.dropLast

/-- Leaves one blank line of each run of them. `blank` says whether a blank line, or no line at
all, stands before. -/
def squeeze : Bool → List Text → List Text
  | _, [] => []
  | blank, l :: ls =>
    if l = [] then (if blank then squeeze true ls else l :: squeeze true ls)
    else l :: squeeze false ls

/-- Blank lines only between other lines, and never two in a row. -/
def tidy (ls : List Text) : List Text :=
  ((squeeze true ls).reverse.dropWhile (· = [])).reverse

def groupText (comments : List Text) : Text :=
  Text.unlines (tidy ((comments.flatMap rawLines).map Text.stripEnd))

end StructCli.Go.Comment
