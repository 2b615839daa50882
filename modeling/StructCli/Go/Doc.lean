import StructCli.Go.Comment

/-! # Doc comments

The doc comment of a node is the group of comments that ends on the row above it, or on its own
row, without blank rows in between. A comment that follows something else on its row is no doc
comment, and cuts off the group.
-/

namespace StructCli.Go

inductive SiblingKind where
  | comment (text : Text)
  | terminator
  | other
  deriving DecidableEq, Repr

/-- Something that stands beside a node, with the rows on which it starts and ends. -/
structure Sibling where
  kind : SiblingKind
  row : Nat
  endRow : Nat
  deriving DecidableEq, Repr

/-- The row of something that may have a doc, and what stands before it, the nearest thing first. -/
structure Doc.Site where
  row : Nat
  before : List Sibling
  deriving DecidableEq

namespace Doc

/-- A comment that starts on `row` is trailing if the nearest thing before it, other than a
terminator, is no comment and ends on that row. -/
def isTrailing (row : Nat) : List Sibling → Bool
  | [] => false
  | s :: before =>
    match s.kind with
    | .terminator => isTrailing row before
    | .comment _ => false
    | .other => s.endRow = row

/-- The comments above a node that starts on `row`. The siblings before the node, and the
comments, are listed from the nearest on. -/
def comments (row : Nat) : List Sibling → List Text
  | [] => []
  | s :: before =>
    match s.kind with
    | .terminator => comments row before
    | .other => []
    | .comment text =>
      if s.endRow + 1 < row ∨ isTrailing s.row before then [] else text :: comments s.row before

/-- The doc text of a node that starts on `row`. -/
def above (row : Nat) (before : List Sibling) : Text :=
  Comment.groupText (comments row before).reverse

end Doc

end StructCli.Go
