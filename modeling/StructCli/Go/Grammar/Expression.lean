import StructCli.Go.Grammar.Type

/-! # Expressions

Operands and what may follow them. A phrase that may be a value or a type is read once, as a form
that says which of the two it can be.
-/

namespace StructCli.Go.Grammar

open Reader

/-- Names of values that are no names of types in an expression. -/
def valueNames : List Text := ["nil", "true", "false", "iota"]

/-- Functions that take a type as their first argument. -/
def allocators : List Text := ["new", "make"]

def moreValues (g : Phrases) : Nat → Reader Unit
  | 0 => stop .depth
  | n + 1 => do
    if ← accept (.punct .comma) then
      if ← accept (.punct .rparen) then return
      else do
        require (← g.expression {}).isValue
        moreValues g n
    else punct .rparen

def allocation (g : Phrases) : Reader Unit := do
  punct .lparen
  if ← accept (.punct .rparen) then return
  else do
    let _ ← g.type false
    moreValues g ((← remaining) + 1)

/-- Arguments of a call, the first parenthesis of which has been read. Dots may follow each. -/
def arguments (g : Phrases) : Reader Unit := do
  if ← accept (.punct .rparen) then return
  else do
    require (← g.expression {}).isValue
    let _ ← accept (.punct .ellipsis)
    if ← accept (.punct .comma) then g.arguments else punct .rparen

def element (g : Phrases) : Reader Unit := do
  if ← accept (.punct .lbrace) then g.elements else require (← g.expression {}).isValue

def elements (g : Phrases) : Reader Unit := do
  if ← accept (.punct .rbrace) then return
  else do
    element g
    if ← accept (.punct .colon) then element g
    if ← accept (.punct .comma) then g.elements else punct .rbrace

/-- Elements between braces. A comma may stand alone. -/
def literalBody (g : Phrases) : Reader Unit := do
  punct .lbrace
  if ← accept (.punct .comma) then punct .rbrace else elements g

def parenthesized : Form → Option Form
  | .name | .qualified | .generic | .shared => some .shared
  | .type _ => some (.type false)
  | .union true | .value => some .value
  | .union false | .lengthless | .guard => none

def bracketOperand (g : Phrases) : Reader Form := do
  punct .lbracket
  if ← accept (.punct .ellipsis) then do
    punct .rbracket
    let _ ← g.type false
    return .lengthless
  else do
    let _ ← bracketType g false
    return .type true

/-- What an expression begins with, operators in front left out. -/
def operand (g : Phrases) (place : Place) : Reader Form := do
  let t ← peek
  match t.kind with
  | .name => do
    name
    if valueNames.contains t.text then return .value
    else if allocators.contains t.text then do
      let u ← peek
      if u.kind = .punct .lparen ∧ goesOn place.lines u then allocation g
      return .value
    else return .name
  | .number | .rune | .string => do
    let _ ← next
    return .value
  | .punct .lparen => do
    punct .lparen
    let f ← g.expression {}
    punct .rparen
    match parenthesized f with
    | some f => return f
    | none => failure
  | .punct .lbracket => bracketOperand g
  | .keyword .func_ => do
    keyword .func_
    signature g false
    if (← peek).kind = .punct .lbrace then do
      g.block
      return .value
    else return .type false
  | .keyword .struct_ | .keyword .map_ => do
    let _ ← type g false
    return .type true
  | .keyword .interface_ | .keyword .chan_ | .punct .tilde => do
    let _ ← type g false
    return .type false
  | _ => failure

/-- The rest of a slice expression after its first colon: an end, or an end and a capacity. -/
def sliceRest (g : Phrases) : Reader Unit := do
  if ← accept (.punct .rbracket) then return
  else do
    require (← g.expression {}).isValue
    if ← accept (.punct .colon) then require (← g.expression {}).isValue
    punct .rbracket

def index (g : Phrases) (f : Form) : Reader Form := do
  punct .lbracket
  if ← accept (.punct .colon) then do
    sliceRest g
    return .value
  else do
    let first ← g.expression {}
    if ← accept (.punct .colon) then do
      require first.isValue
      sliceRest g
      return .value
    else do
      let (fs, trailing) ← moreBracketed g first
      let types := fs.all Form.isConstraint
      if f.isNameLike && types then return .generic
      else if fs.length = 1 && !trailing && first.isValue then return .value
      else do
        require types
        require ((← peek).kind = .punct .lparen)
        return .value

/-- A field or method, a type assertion, or the guard of a type switch. -/
def selector (g : Phrases) (f : Form) : Reader Form := do
  punct .dot
  if ← accept (.punct .lparen) then do
    if ← accept (.keyword .type_) then do
      punct .rparen
      return .guard
    else do
      let _ ← g.type false
      punct .rparen
      return .value
  else do
    name
    return if f = .name then .qualified else .value

def conversion (g : Phrases) : Reader Unit := do
  punct .lparen
  require (← g.expression {}).isValue
  let _ ← accept (.punct .comma)
  punct .rparen

/-- What follows an operand of the form `f`. A line end counts only after a value. -/
def suffixed (g : Phrases) (place : Place) (f : Form) : Reader Form := do
  let t ← peek
  if !goesOn (place.lines && f.isValue) t then return f
  else match t.kind with
    | .punct .dot => if f.isValue then do g.suffixed place (← selector g f) else return f
    | .punct .lbracket => if f.isValue then do g.suffixed place (← index g f) else return f
    | .punct .lparen =>
      if f.isValue then do
        punct .lparen
        g.arguments
        g.suffixed place .value
      else if f.isType then do
        conversion g
        g.suffixed place .value
      else return f
    | .punct .lbrace =>
      if f.headsLiteral place.literals then do
        literalBody g
        g.suffixed place .value
      else return f
    | _ => return f

def starred : Form → Option Form
  | .name | .qualified | .generic | .shared => some .shared
  | .type _ => some (.type false)
  | .value | .union true => some .value
  | .union false | .lengthless | .guard => none

/-- Operators that may stand in front of a value. Two that are written together are taken at
once. -/
def isSign : Punct → Bool
  | .plus | .minus | .bang | .caret | .amp | .increment | .decrement | .ampAmp | .ampCaret => true
  | _ => false

def unary (g : Phrases) (place : Place) : Reader Form := do
  match (← peek).kind with
  | .punct .star => do
    punct .star
    match starred (← g.unary place) with
    | some f => return f
    | none => failure
  | .punct .arrow => do
    punct .arrow
    if ← accept (.keyword .chan_) then do
      let _ ← g.type false
      suffixed g place (.type false)
    else do
      require (← g.unary place).isValue
      return .value
  | .punct p =>
    if isSign p then do
      punct p
      require (← g.unary place).isValue
      return .value
    else do suffixed g place (← operand g place)
  | _ => do suffixed g place (← operand g place)

/-- Operators between two values. Where no statement begins, three operators of statements split
into an operator between values and one in front of a value. -/
def isOperator (leads : Bool) : Punct → Bool
  | .plus | .minus | .star | .slash | .percent | .amp | .pipe | .caret | .shiftLeft | .shiftRight
  | .ampCaret | .ampAmp | .pipePipe | .eq | .ne | .lt | .le | .gt | .ge => true
  | .increment | .decrement | .arrow => !leads
  | _ => false

def combined (p : Punct) (f h : Form) : Option Form :=
  if p = .pipe ∧ f.isConstraint ∧ h.isConstraint then some (.union (f.isValue && h.isValue))
  else if f.isValue && h.isValue then some .value
  else none

def binary (g : Phrases) (place : Place) (f : Form) : Reader Form := do
  let t ← peek
  if !goesOn (place.lines && f.isValue) t then return f
  else match t.kind with
    | .punct p =>
      if isOperator place.leads p then do
        punct p
        match combined p f (← g.unary place) with
        | some h => g.binary place h
        | none => failure
      else return f
    | _ => return f

def expression (g : Phrases) (place : Place) : Reader Form := do
  binary g place (← unary g place)

/-- Expressions with commas between them, and how many there are with the `n` before them. -/
def expressions (g : Phrases) (place : Place) (n : Nat) : Reader (Form × Nat) := do
  let f ← expression g place
  if ← acceptOn place.lines (.punct .comma) then do
    require f.isValue
    g.expressions place (n + 1)
  else return (f, n + 1)

def values (g : Phrases) (place : Place) : Reader Unit := do
  require (← expressions g place 0).1.isValue

def value (g : Phrases) (place : Place) : Reader Unit := do
  require (← expression g place).isValue

end StructCli.Go.Grammar
