import StructCli.Go.Doc
import StructCli.Text.Slice

/-! # Syntax trees

A parser answers to a source with a tree of nodes. Comments are nodes beside the nodes that they
stand between.
-/

namespace StructCli.Go

/-- Where something stands in a source: its first byte and the byte after its last one, and the
rows of the two. -/
structure Extent where
  start : Nat
  stop : Nat
  row : Nat
  endRow : Nat

/-- A node without a name is a token, and its kind is what it is spelled as. A label says which part
of its parent a node is. -/
structure Node extends Extent where
  kind : Text
  named : Bool
  label : Option Text
  children : List Node

structure SyntaxTree where
  root : Node
  hasError : Bool

/-- A parser of encoded sources. -/
abbrev TreeParser := List UInt8 → SyntaxTree

/-- A node with the nodes before it under the same parent, the nearest one first. -/
structure Placed where
  node : Node
  before : List Node

namespace Node

def text (source : Text) (n : Node) : Text := source.slice n.start n.stop

def is (kind : Text) (n : Node) : Bool := n.named && n.kind = kind

def labelled (label : Text) (n : Node) : Bool := n.label = some label

def isTerminator (n : Node) : Bool := !n.named && (n.kind = "\n" || n.kind = ";")

def sibling (source : Text) (n : Node) : Sibling where
  kind :=
    if n.isTerminator then .terminator
    else if n.kind = "comment" then .comment (n.text source)
    else .other
  row := n.row
  endRow := n.endRow

end Node

namespace Placed

/-- The nodes of a list, to the right of some others. -/
def ofSiblings (before : List Node) : List Node → List Placed
  | [] => []
  | n :: after => ⟨n, before⟩ :: ofSiblings (n :: before) after

def site (source : Text) (p : Placed) : Doc.Site :=
  ⟨p.node.row, p.before.map (Node.sibling source)⟩

def doc (source : Text) (p : Placed) : Text :=
  Doc.above (p.site source).row (p.site source).before

end Placed

def Node.parts (kind : Text) (n : Node) : List Placed :=
  (Placed.ofSiblings [] n.children).filter (·.node.is kind)

end StructCli.Go
