import StructCli.Go.Grammar.Expression

/-! # Statements

Simple statements, the headers and bodies of compound ones, and the declarations that may stand
among them.
-/

namespace StructCli.Go.Grammar

open Reader

/-- The header of a compound statement: a brace after a name opens the body. -/
def header : Place := { literals := false }

def simpleAfter (g : Phrases) (place : Place) (f : Form) (n : Nat) : Reader Simple := do
  let t ← peek
  let rest := { place with leads := false }
  if !goesOn place.lines t then do
    require (n = 1 && (f.isValue || f = .guard))
    return if f = .guard then .guard else .value
  else match t.kind with
    | .punct .increment | .punct .decrement => do
      let _ ← next
      require (n = 1 && f.isValue)
      return .step
    | .punct .arrow => do
      let _ ← next
      require (n = 1 && f.isValue)
      value g rest
      return .other
    | .punct .define => do
      let _ ← next
      require f.isValue
      let (h, m) ← expressions g rest 0
      if h = .guard && m = 1 then return .guard
      else do
        require h.isValue
        return .other
    | .punct .assign | .punct .assignOp => do
      let _ ← next
      require f.isValue
      values g rest
      return .other
    | _ => do
      require (n = 1 && (f.isValue || f = .guard))
      return if f = .guard then .guard else .value

def simple (g : Phrases) (place : Place) : Reader Simple := do
  let place := { place with leads := true }
  let (f, n) ← expressions g place 0
  simpleAfter g place f n

def block (g : Phrases) : Reader Unit := do
  punct .lbrace
  g.statements
  punct .rbrace

/-- A condition, before which a simple statement and a semicolon may stand, and its branches. -/
def ifStatement (g : Phrases) : Reader Unit := do
  keyword .if_
  let s ← simple g header
  if ← accept (.punct .semicolon) then do
    require (s ≠ .guard)
    value g header
  else require (s = .value)
  block g
  if ← acceptOn true (.keyword .else_) then
    if (← peek).kind = .keyword .if_ then do
      let _ ← g.statement
    else block g

/-- The condition and the update of a loop, its first semicolon having been read. -/
def forClause (g : Phrases) : Reader Unit := do
  if !(← accept (.punct .semicolon)) then do
    value g header
    punct .semicolon
  if (← peek).kind ≠ .punct .lbrace then do
    require ((← simple g header) ≠ .guard)
  block g

def rangeClause (g : Phrases) : Reader Unit := do
  keyword .range_
  value g header
  block g

def forStatement (g : Phrases) : Reader Unit := do
  keyword .for_
  match (← peek).kind with
  | .punct .lbrace => block g
  | .keyword .range_ => rangeClause g
  | .punct .semicolon => do
    punct .semicolon
    forClause g
  | _ => do
    let place := { header with leads := true }
    let (f, n) ← expressions g place 0
    let t ← peek
    let u ← peekSecond
    if (t.kind = .punct .assign ∨ t.kind = .punct .define) ∧ u.kind = .keyword .range_ then do
      let _ ← next
      require f.isValue
      rangeClause g
    else do
      let s ← simpleAfter g place f n
      if ← accept (.punct .semicolon) then do
        require (s ≠ .guard)
        forClause g
      else do
        require (s = .value)
        block g

/-- The header of a switch without an initial statement. Gives `true` for a switch on types. -/
def switchValue (g : Phrases) : Reader Bool := do
  if (← peek).kind = .punct .lbrace then return false
  else do
    let s ← simple g header
    require (s = .value || s = .guard)
    return s = .guard

def switchStatement (g : Phrases) : Reader Unit := do
  keyword .switch_
  let onTypes ←
    if (← peek).kind = .punct .lbrace then pure false
    else do
      let s ← simple g header
      if ← accept (.punct .semicolon) then do
        require (s ≠ .guard)
        switchValue g
      else do
        require (s = .value || s = .guard)
        pure (s = .guard)
  punct .lbrace
  g.cases onTypes

def typeList (g : Phrases) : Nat → Reader Unit
  | 0 => stop .depth
  | n + 1 => do
    let _ ← g.type false
    if ← accept (.punct .comma) then typeList g n

def cases (g : Phrases) (onTypes : Bool) : Reader Unit := do
  match (← peek).kind with
  | .keyword .case_ => do
    keyword .case_
    if onTypes then typeList g ((← remaining) + 1) else values g {}
    punct .colon
    g.statements
    g.cases onTypes
  | .keyword .default_ => do
    keyword .default_
    punct .colon
    g.statements
    g.cases onTypes
  | _ => punct .rbrace

/-- A send or a receive, the value of which may be assigned. -/
def communication (g : Phrases) : Reader Unit := do
  let (f, n) ← expressions g { leads := true } 0
  require f.isValue
  match (← peek).kind with
  | .punct .arrow => do
    require (n = 1)
    let _ ← next
    value g {}
  | .punct .assign | .punct .define => do
    let _ ← next
    value g {}
  | _ => require (n = 1)

def communications (g : Phrases) : Reader Unit := do
  match (← peek).kind with
  | .keyword .case_ => do
    keyword .case_
    communication g
    punct .colon
    g.statements
    g.communications
  | .keyword .default_ => do
    keyword .default_
    punct .colon
    g.statements
    g.communications
  | _ => punct .rbrace

def selectStatement (g : Phrases) : Reader Unit := do
  keyword .select_
  punct .lbrace
  g.communications

/-- Names with commas between them. `lines` says whether a line end may close them. -/
def names (g : Phrases) (lines : Bool) : Reader Unit := do
  name
  if ← acceptOn lines (.punct .comma) then g.names lines

/-- Constants: names, and values after a type or without one. Gives `true` if there are values. -/
def constSpec (g : Phrases) : Reader Bool := do
  names g true
  let t ← peek
  if goesOn true t && t.kind = .punct .assign then do
    punct .assign
    values g { lines := true }
    return true
  else if goesOn true t && startsAnyType t.kind then do
    let _ ← g.type true
    punct .assign
    values g { lines := true }
    return true
  else return false

def varSpec (g : Phrases) : Reader Bool := do
  names g false
  if ← accept (.punct .assign) then do
    values g { lines := true }
    return true
  else do
    let _ ← g.type true
    if ← acceptOn true (.punct .assign) then do
      values g { lines := true }
      return true
    else return false

/-- Each of the specifications between parentheses is terminated. -/
def constSpecs (g : Phrases) : Reader Unit := do
  if ← accept (.punct .rparen) then return
  else do
    let _ ← constSpec g
    require (← terminator)
    g.constSpecs

def varSpecs (g : Phrases) : Reader Unit := do
  if ← accept (.punct .rparen) then return
  else do
    let _ ← varSpec g
    require (← terminator)
    g.varSpecs

/-- Gives `true` if the declaration ends in values. -/
def constDeclaration (g : Phrases) : Reader Bool := do
  keyword .const_
  if ← accept (.punct .lparen) then do
    g.constSpecs
    return false
  else constSpec g

def varDeclaration (g : Phrases) : Reader Bool := do
  keyword .var_
  if ← accept (.punct .lparen) then do
    g.varSpecs
    return false
  else varSpec g

/-- The kind and the parts of a type specification or an alias. A bracket after the name opens an
array type if one can be read there, and type parameters otherwise, which are left out. -/
def typeSpec (g : Phrases) : Reader (Text × List Node) := do
  let name ← leafNodes .name "type_identifier" (some "name")
  let body : Reader (Text × List Node) := do
    if ← accept (.punct .assign) then
      return ("type_alias", name ++ (← typeNodes (g.type true)))
    else return ("type_spec", name ++ (← typeNodes (type g true)))
  if (← peek).kind = .punct .lbracket then
    (do return ("type_spec", name ++ (← typeNodes (type g true)))) <|> (do
      punct .lbracket
      g.typeParams
      body)
  else body

def specNodes (g : Phrases) : Reader (List Node) := do
  let ((kind, children), comments, extent) ← spanned (typeSpec g)
  return comments ++ [extent.node kind true none children]

def typeSpecs (g : Phrases) : Reader (List Node) := do
  if (← peek).kind = .punct .rparen then punctNodes .rparen
  else do
    let spec ← specNodes g
    match ← terminatorNodes with
    | some ends => return spec ++ ends ++ (← g.typeSpecs)
    | none => return spec ++ (← punctNodes .rparen)

def typeDeclaration (g : Phrases) : Reader (List Node) := do
  let type ← keywordNodes .type_
  if (← peek).kind = .punct .lparen then
    return type ++ (← punctNodes .lparen) ++ (← g.typeSpecs)
  else return type ++ (← specNodes g)

def endsStatements : TokenKind → Bool
  | .punct .rbrace | .keyword .case_ | .keyword .default_ => true
  | _ => false

def startsExpression : TokenKind → Bool
  | .name | .number | .rune | .string | .punct .lparen | .punct .lbracket | .punct .star
  | .punct .arrow | .punct .tilde | .keyword .func_ | .keyword .struct_ | .keyword .map_
  | .keyword .interface_ | .keyword .chan_ => true
  | .punct p => isSign p
  | _ => false

def labelled : Reader Bool := do
  let t ← peek
  let u ← peekSecond
  return t.kind = .name && u.kind = .punct .colon && goesOn true u

/-- A label that may stand after the keyword of a jump. -/
def jump (k : Keyword) : Reader Unit := do
  keyword k
  let _ ← acceptOn true .name

/-- A statement that begins with no keyword, brace or semicolon. -/
def plainStatement (g : Phrases) : Reader Bool := do
  if ← labelled then do
    name
    punct .colon
    g.statement
  else do
    let s ← simple g { lines := true }
    require (s ≠ .guard)
    return s ≠ .step

def returnStatement (g : Phrases) : Reader Unit := do
  keyword .return_
  let t ← peek
  if goesOn true t && startsExpression t.kind then values g { lines := true }

/-- A statement. Gives `true` if it is a return or ends in a value. -/
def statement (g : Phrases) : Reader Bool := do
  match (← peek).kind with
  | .keyword .const_ => constDeclaration g
  | .keyword .type_ => do let _ ← typeDeclaration g; return false
  | .keyword .var_ => varDeclaration g
  | .keyword .return_ => do returnStatement g; return true
  | .keyword .go_ => do keyword .go_; value g { lines := true }; return true
  | .keyword .defer_ => do keyword .defer_; value g { lines := true }; return true
  | .keyword .if_ => do ifStatement g; return false
  | .keyword .for_ => do forStatement g; return false
  | .keyword .switch_ => do switchStatement g; return false
  | .keyword .select_ => do selectStatement g; return false
  | .keyword .fallthrough_ => do keyword .fallthrough_; return false
  | .keyword .break_ => do jump .break_; return false
  | .keyword .continue_ => do jump .continue_; return false
  | .keyword .goto_ => do keyword .goto_; name; return false
  | .punct .lbrace => do block g; return false
  | .punct .semicolon => do punct .semicolon; return false
  | _ => plainStatement g

/-- A label without a statement. It may stand only at the end of a list of statements. -/
def emptyLabel : Reader Unit := do
  name
  punct .colon
  require (endsStatements (← peek).kind)

def statements (g : Phrases) : Reader Unit := do
  if endsStatements (← peek).kind then return
  else emptyLabel <|> do
    let _ ← statement g
    if ← terminator then g.statements

end StructCli.Go.Grammar
