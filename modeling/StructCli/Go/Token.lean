import StructCli.Go.Tree

/-! # Tokens

A source is a list of tokens. Each token keeps the line ends and comments that stand before it.
-/

namespace StructCli.Go

inductive Keyword where
  | break_ | case_ | chan_ | const_ | continue_ | default_ | defer_ | else_ | fallthrough_ | for_
  | func_ | go_ | goto_ | if_ | import_ | interface_ | map_ | package_ | range_ | return_
  | select_ | struct_ | switch_ | type_ | var_
  deriving DecidableEq, Repr

/-- Brackets, separators and operators. `assignOp` stands for every operator followed by an equals
sign. -/
inductive Punct where
  | lparen | rparen | lbracket | rbracket | lbrace | rbrace
  | comma | semicolon | colon | dot | ellipsis
  | assign | define | assignOp | increment | decrement | arrow
  | plus | minus | star | slash | percent | amp | pipe | caret | shiftLeft | shiftRight | ampCaret
  | ampAmp | pipePipe | bang | tilde | eq | ne | lt | le | gt | ge
  deriving DecidableEq, Repr

inductive TokenKind where
  | name
  | keyword (k : Keyword)
  | punct (p : Punct)
  | number
  | rune
  | string
  | nul
  | unknown
  | eof
  deriving DecidableEq, Repr

inductive Trivia where
  | newline (extent : Extent)
  | comment (extent : Extent)

structure Token extends Extent where
  lead : List Trivia
  kind : TokenKind
  text : Text

def Extent.node (e : Extent) (kind : Text) (named : Bool := true) (label : Option Text := none)
    (children : List Node := []) : Node :=
  { e with kind, named, label, children }

namespace Trivia

def isNewline : Trivia → Bool
  | newline _ => true
  | comment _ => false

def comments (lead : List Trivia) : List Node :=
  lead.filterMap fun
    | newline _ => none
    | comment e => some (e.node "comment")

end Trivia

namespace Token

/-- A line ends between the token before and this one. -/
def afterNewline (t : Token) : Bool := t.lead.any Trivia.isNewline

/-- A token that is spelled as its kind. -/
def node (t : Token) : Node := t.toExtent.node t.text false

end Token

end StructCli.Go
