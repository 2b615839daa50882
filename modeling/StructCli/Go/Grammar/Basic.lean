import StructCli.Declaration
import StructCli.Go.Token

/-! # Readers

A reader takes a phrase from the front of a list of tokens. A line end closes a phrase only where
the phrase is complete and may be closed there; elsewhere it is a blank.
-/

namespace StructCli.Go

/-- Why a reader stops: the tokens are no such phrase, or the phrase is nested too deeply. -/
inductive Stop where
  | mismatch
  | depth
  deriving DecidableEq, Repr

/-- Takes a phrase from the front of the tokens and leaves those that follow, or stops. -/
structure Reader (α : Type) where
  run : List Token → Except Stop (α × List Token)

namespace Reader

variable {α β : Type}

protected def pure (a : α) : Reader α := ⟨fun ts => .ok (a, ts)⟩

protected def bind (r : Reader α) (f : α → Reader β) : Reader β where
  run ts := do
    let (a, rest) ← r.run ts
    (f a).run rest

instance : Monad Reader where
  pure := Reader.pure
  bind := Reader.bind

def stop (why : Stop) : Reader α := ⟨fun _ => .error why⟩

/-- Takes the one phrase, or the other one where the tokens are no phrase of the first kind. -/
protected def orElse (r : Reader α) (s : Unit → Reader α) : Reader α where
  run ts :=
    match r.run ts with
    | .error .mismatch => (s ()).run ts
    | outcome => outcome

instance : Alternative Reader where
  failure := stop .mismatch
  orElse := Reader.orElse

end Reader

inductive TypeKind where
  | named | qualified | generic | pointer | array | slice | map | channel | function | interface
  | struct | negated | parenthesized
  deriving DecidableEq, Repr

def TypeKind.label : TypeKind → Text
  | named => "type_identifier"
  | qualified => "qualified_type"
  | generic => "generic_type"
  | pointer => "pointer_type"
  | array => "array_type"
  | slice => "slice_type"
  | map => "map_type"
  | channel => "channel_type"
  | function => "function_type"
  | interface => "interface_type"
  | struct => structKind
  | negated => "negated_type"
  | parenthesized => "parenthesized_type"

/-- A type that has been read. Only the parts of structs are kept. -/
structure TypeNode where
  kind : TypeKind
  children : List Node := []

/-- What an operand may be read as: the name of a type or of a value, a name with type arguments, a
value or a type alike, a union of types, a type (of which a literal may be made), an array type
without length, a value, or the guard of a type switch. -/
inductive Form where
  | name
  | qualified
  | generic
  | shared
  | union (value : Bool)
  | type (literal : Bool)
  | lengthless
  | value
  | guard
  deriving DecidableEq, Repr

namespace Form

def isValue : Form → Bool
  | name | qualified | generic | shared | value => true
  | union v => v
  | type _ | lengthless | guard => false

def isType : Form → Bool
  | name | qualified | generic | shared | type _ => true
  | _ => false

def isConstraint : Form → Bool
  | union _ => true
  | f => f.isType

def isNameLike : Form → Bool
  | name | qualified => true
  | _ => false

/-- The type of a composite literal. Where a block may follow, a name is none. -/
def headsLiteral (names : Bool) : Form → Bool
  | name | qualified | generic => names
  | type literal => literal
  | lengthless => true
  | _ => false

end Form

/-- Where an expression stands: whether a line end closes it, whether a brace after a name opens a
literal, and whether it begins a statement. -/
structure Place where
  lines : Bool := false
  literals : Bool := true
  leads : Bool := false

/-- What a simple statement turns out to be: a value, the guard of a type switch, an increment or
decrement, or a statement that ends in a value. -/
inductive Simple where
  | value
  | guard
  | step
  | other
  deriving DecidableEq, Repr

structure Phrases where
  type : Bool → Reader TypeNode
  constraints : Reader Unit
  typeParams : Reader Unit
  params : Reader Unit
  fields : Reader (List Node)
  interfaceElems : Reader Unit
  expression : Place → Reader Form
  expressions : Place → Nat → Reader (Form × Nat)
  unary : Place → Reader Form
  binary : Place → Form → Reader Form
  suffixed : Place → Form → Reader Form
  arguments : Reader Unit
  elements : Reader Unit
  bracketed : Reader (List Form × Bool)
  block : Reader Unit
  statement : Reader Bool
  statements : Reader Unit
  cases : Bool → Reader Unit
  communications : Reader Unit
  names : Bool → Reader Unit
  constSpecs : Reader Unit
  varSpecs : Reader Unit
  importSpecs : Reader Unit
  typeSpecs : Reader (List Node)

namespace Reader

/-- The token that stands for the end where there are no tokens. -/
def endToken : Token := ⟨⟨0, 0, 0, 0⟩, [], .eof, []⟩

def peek : Reader Token := ⟨fun ts => .ok (ts.headD endToken, ts)⟩

def peekSecond : Reader Token := ⟨fun ts => .ok (ts.tail.headD endToken, ts)⟩

def remaining : Reader Nat := ⟨fun ts => .ok (ts.length, ts)⟩

def next : Reader Token where
  run
    | [] => .error .mismatch
    | t :: ts => .ok (t, ts)

def token (k : TokenKind) : Reader Token where
  run
    | [] => .error .mismatch
    | t :: ts => if t.kind = k then .ok (t, ts) else .error .mismatch

def expect (k : TokenKind) : Reader Unit := do
  let _ ← token k

def punct (p : Punct) : Reader Unit := expect (.punct p)

def keyword (k : Keyword) : Reader Unit := expect (.keyword k)

def name : Reader Unit := expect .name

def accept (k : TokenKind) : Reader Bool where
  run
    | [] => .ok (false, [])
    | t :: ts => if t.kind = k then .ok (true, ts) else .ok (false, t :: ts)

/-- The next token goes on the phrase: no line end that counts stands before it. -/
def goesOn (lines : Bool) (t : Token) : Bool := !(lines && t.afterNewline)

def acceptOn (lines : Bool) (k : TokenKind) : Reader Bool := do
  let t ← peek
  if goesOn lines t then accept k else return false

def require (b : Bool) : Reader Unit := if b then pure () else failure

/-! ## Nodes -/

/-- A token as a node, behind the comments before it. -/
def tokenNodes (k : TokenKind) (node : Token → Node) : Reader (List Node) := do
  let t ← token k
  return Trivia.comments t.lead ++ [node t]

def punctNodes (p : Punct) : Reader (List Node) := tokenNodes (.punct p) Token.node

def keywordNodes (k : Keyword) : Reader (List Node) := tokenNodes (.keyword k) Token.node

def leafNodes (k : TokenKind) (kind : Text) (label : Option Text) : Reader (List Node) :=
  tokenNodes k fun t => t.toExtent.node kind true label

def uncommented : List Token → List Token
  | [] => []
  | t :: ts => { t with lead := t.lead.filter Trivia.isNewline } :: ts

/-- Reads a phrase, and gives where it stands together with the comments before it, which are no
part of it. -/
def spanned {α : Type} (r : Reader α) : Reader (α × List Node × Extent) where
  run ts := do
    let (a, rest) ← r.run (uncommented ts)
    let first := ts.headD endToken
    let last := (ts.take (ts.length - rest.length)).getLast?.getD first
    return ((a, Trivia.comments first.lead, ⟨first.start, last.stop, first.row, last.endRow⟩), rest)

def phrase (kind : Text) (r : Reader (List Node)) : Reader (List Node) := do
  let (children, comments, extent) ← spanned r
  return comments ++ [extent.node kind true none children]

/-- The nodes of a line end, with the comments before it, and what stands after it. -/
def lineEnd (lead : List Trivia) : List Node × List Trivia :=
  let before := lead.takeWhile fun x => !x.isNewline
  match lead.drop before.length with
  | .newline e :: after => (Trivia.comments before ++ [e.node "\n" false], after)
  | after => (Trivia.comments before, after)

/-- Takes the end of a line, a semicolon or a null character, and gives its nodes. -/
def terminatorNodes : Reader (Option (List Node)) where
  run
    | [] => .ok (none, [])
    | t :: ts =>
      if t.afterNewline then
        let (nodes, lead) := lineEnd t.lead
        .ok (some nodes, { t with lead } :: ts)
      else if t.kind = .punct .semicolon ∨ t.kind = .nul then
        .ok (some (Trivia.comments t.lead ++ [t.node]), ts)
      else .ok (none, t :: ts)

def terminator : Reader Bool := do return (← terminatorNodes).isSome

end Reader

end StructCli.Go
