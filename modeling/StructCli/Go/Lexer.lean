import StructCli.Go.Number
import StructCli.Go.Literal
import StructCli.Go.Token
import StructCli.Text.Casing

/-! # Lexemes

A source is cut into lexemes from the front, each the longest that begins there. A character that
begins no lexeme is a lexeme of its own, of unknown kind.
-/

namespace StructCli.Go

inductive LexemeKind where
  | blank
  | newline
  | comment
  | token (k : TokenKind)
  deriving DecidableEq, Repr

structure Lexeme where
  kind : LexemeKind
  text : Text
  deriving DecidableEq, Repr

namespace Lexeme

def keywords : List (String × Keyword) :=
  [("break", .break_), ("case", .case_), ("chan", .chan_), ("const", .const_),
   ("continue", .continue_), ("default", .default_), ("defer", .defer_), ("else", .else_),
   ("fallthrough", .fallthrough_), ("for", .for_), ("func", .func_), ("go", .go_),
   ("goto", .goto_), ("if", .if_), ("import", .import_), ("interface", .interface_),
   ("map", .map_), ("package", .package_), ("range", .range_), ("return", .return_),
   ("select", .select_), ("struct", .struct_), ("switch", .switch_), ("type", .type_),
   ("var", .var_)]

/-- Longer forms stand before the forms that begin them. -/
def puncts : List (String × Punct) :=
  [("<<=", .assignOp), (">>=", .assignOp), ("&^=", .assignOp), ("...", .ellipsis),
   ("+=", .assignOp), ("-=", .assignOp), ("*=", .assignOp), ("/=", .assignOp),
   ("%=", .assignOp), ("&=", .assignOp), ("|=", .assignOp), ("^=", .assignOp),
   (":=", .define), ("++", .increment), ("--", .decrement), ("<-", .arrow),
   ("<<", .shiftLeft), (">>", .shiftRight), ("&^", .ampCaret), ("&&", .ampAmp),
   ("||", .pipePipe), ("==", .eq), ("!=", .ne), ("<=", .le), (">=", .ge),
   ("(", .lparen), (")", .rparen), ("[", .lbracket), ("]", .rbracket), ("\x7b", .lbrace),
   ("\x7d", .rbrace), (",", .comma), (";", .semicolon), (":", .colon), (".", .dot),
   ("=", .assign), ("+", .plus), ("-", .minus), ("*", .star), ("/", .slash), ("%", .percent),
   ("&", .amp), ("|", .pipe), ("^", .caret), ("!", .bang), ("~", .tilde), ("<", .lt),
   (">", .gt)]

def nameKind (t : Text) : TokenKind :=
  match keywords.find? fun p => Text.ofString p.1 = t with
  | some p => .keyword p.2
  | none => .name

def isNul (c : CodePoint) : Bool := c = .scalar '\x00'

def isBlank (c : CodePoint) : Bool := c.value = 9 || (11 ≤ c.value && c.value ≤ 13) || c.value = 32

def blockLength? : Text → Option Nat
  | [] => none
  | .scalar '*' :: .scalar '/' :: _ => some 2
  | c :: r => if isNul c then none else (blockLength? r).map (· + 1)

/-- The length of a comment. A line comment ends before the line feed; a block comment has to
end. -/
def commentLength? : Text → Option Nat
  | .scalar '/' :: .scalar '/' :: r =>
    some (2 + (r.takeWhile fun c => c ≠ .scalar '\n' && !isNul c).length)
  | .scalar '/' :: .scalar '*' :: r => (blockLength? r).map (· + 2)
  | _ => none

def isStringEscape : Text → Bool
  | [] => false
  | c :: r =>
    if c = .scalar 'x' then (Literal.hexNumber? 0 2 r).isSome
    else if c = .scalar 'u' then (Literal.hexNumber? 0 4 r).isSome
    else if c = .scalar 'U' then (Literal.hexNumber? 0 8 r).isSome
    else !isNul c

def interpretedLength? : Text → Option Nat
  | [] => none
  | .scalar '"' :: _ => some 1
  | [.scalar '\\'] => none
  | .scalar '\\' :: c :: r =>
    if isStringEscape (c :: r) then (interpretedLength? r).map (· + 2) else none
  | c :: r => if c = .scalar '\n' || isNul c then none else (interpretedLength? r).map (· + 1)

def rawLength? : Text → Option Nat
  | [] => none
  | c :: r =>
    if c = .scalar '`' then some 1
    else if isNul c then none
    else (rawLength? r).map (· + 1)

def runeEscape? : Text → Option Nat
  | [] => none
  | c :: r =>
    if c = .scalar 'x' then (Literal.hexNumber? 0 2 r).map fun _ => 3
    else if c = .scalar 'u' then (Literal.hexNumber? 0 4 r).map fun _ => 5
    else if c = .scalar 'U' then (Literal.hexNumber? 0 8 r).map fun _ => 9
    else if Number.isOctal c then
      if (r.take 2).length = 2 ∧ (r.take 2).all Number.isOctal then some 3 else none
    else if c = .scalar '\'' ∨ (Literal.simpleEscape? c).isSome then some 1
    else none

/-- The length of a rune literal after its opening quote: one character or escape, and a quote. -/
def runeLength? : Text → Option Nat
  | [] => none
  | c :: r => do
    let n ←
      if c = .scalar '\\' then (runeEscape? r).map (· + 1)
      else if c = .scalar '\'' ∨ isNul c then none
      else some 1
    if (c :: r)[n]? = some (.scalar '\'') then some (n + 1) else none

def quotedLength? : Text → Option (TokenKind × Nat)
  | .scalar '"' :: r => (interpretedLength? r).map fun n => (.string, n + 1)
  | .scalar '`' :: r => (rawLength? r).map fun n => (.string, n + 1)
  | .scalar '\'' :: r => (runeLength? r).map fun n => (.rune, n + 1)
  | _ => none

def punct? (t : Text) : Option (TokenKind × Nat) :=
  (puncts.find? fun p => (Text.ofString p.1).isPrefixOf t).map fun p =>
    (.punct p.2, p.1.length)

def tokenAt (t : Text) : TokenKind × Nat :=
  match t with
  | [] => (.eof, 0)
  | c :: _ =>
    if c.isIdentifierStart then
      let name := t.takeWhile CodePoint.isIdentifierPart
      (nameKind name, name.length)
    else
      let n := Number.length t
      if n ≠ 0 then (.number, n)
      else if isNul c then (.nul, 1)
      else ((quotedLength? t).or (punct? t)).getD (.unknown, 1)

def lexemeAt (t : Text) : LexemeKind × Nat :=
  match t with
  | .scalar '\n' :: _ => (.newline, 1)
  | _ =>
    let blank := (t.takeWhile isBlank).length
    if blank ≠ 0 then (.blank, blank)
    else match commentLength? t with
      | some n => (.comment, n)
      | none => let (k, n) := tokenAt t; (.token k, n)

/-- The first `fuel` lexemes of a text. -/
def scanUpTo : Nat → Text → List Lexeme
  | 0, _ => []
  | _, [] => []
  | fuel + 1, t =>
    let (k, n) := lexemeAt t
    ⟨k, t.take n⟩ :: scanUpTo fuel (t.drop n)

def scan (t : Text) : List Lexeme := scanUpTo t.length t

end Lexeme

namespace Token

/-- The tokens of some lexemes. The end of the source is a token of its own. `lead` holds, last
one first, what stands before the next token. -/
def ofLexemes (start row : Nat) (lead : List Trivia) : List Lexeme → List Token
  | [] => [{ start, stop := start, row, endRow := row, lead := lead.reverse, kind := .eof, text := [] }]
  | x :: xs =>
    let e : Extent := ⟨start, start + x.text.utf8Size, row, row + x.text.lineFeeds⟩
    match x.kind with
    | .blank => ofLexemes e.stop e.endRow lead xs
    | .newline => ofLexemes e.stop e.endRow (.newline e :: lead) xs
    | .comment => ofLexemes e.stop e.endRow (.comment e :: lead) xs
    | .token k =>
      { e with lead := lead.reverse, kind := k, text := x.text } :: ofLexemes e.stop e.endRow [] xs

/-- The tokens of a source. A byte order mark at its start is passed over. -/
def ofSource (source : Text) : List Token :=
  match source with
  | .scalar '\uFEFF' :: t => ofLexemes 3 0 [] (Lexeme.scan t)
  | t => ofLexemes 0 0 [] (Lexeme.scan t)

end Token

end StructCli.Go
