import StructCli.Go.Grammar.Basic

/-! # Types

Types, parameters, and the members of structs and interfaces.
-/

namespace StructCli.Go.Grammar

open Reader

def startsType : TokenKind → Bool
  | .name | .punct .star | .punct .lbracket | .punct .arrow | .punct .tilde
  | .keyword .map_ | .keyword .chan_ | .keyword .func_ | .keyword .struct_
  | .keyword .interface_ => true
  | _ => false

def startsAnyType (k : TokenKind) : Bool := startsType k || k = .punct .lparen

def constraints (g : Phrases) : Reader Unit := do
  let _ ← g.type false
  if ← accept (.punct .pipe) then g.constraints
  else if ← accept (.punct .comma) then
    if ← accept (.punct .rbracket) then return else g.constraints
  else punct .rbracket

/-- A name of a type, of which a package and type arguments may be parts. -/
def typeName (g : Phrases) (lines : Bool) : Reader TypeKind := do
  name
  let kind ←
    if ← acceptOn lines (.punct .dot) then do
      name
      pure TypeKind.qualified
    else pure TypeKind.named
  if ← acceptOn lines (.punct .lbracket) then do
    g.constraints
    return .generic
  else return kind

def signature (g : Phrases) (lines : Bool) : Reader Unit := do
  punct .lparen
  g.params
  let t ← peek
  if goesOn lines t then
    if t.kind = .punct .lparen then do
      punct .lparen
      g.params
    else if startsType t.kind then do
      let _ ← g.type lines

/-- A type between brackets and what follows them, the first bracket of which has been read. -/
def bracketType (g : Phrases) (lines : Bool) : Reader TypeKind := do
  if ← accept (.punct .rbracket) then do
    let _ ← g.type lines
    return .slice
  else do
    require (← g.expression {}).isValue
    punct .rbracket
    let _ ← g.type lines
    return .array

/-- A type that another type completes. -/
def elementType (g : Phrases) (lines : Bool) (kind : TypeKind) : Reader TypeNode := do
  let _ ← g.type lines
  return { kind }

/-- A type. `lines` says whether a line end may close it. -/
def type (g : Phrases) (lines : Bool) : Reader TypeNode := do
  match (← peek).kind with
  | .name => return { kind := ← typeName g lines }
  | .punct .star => do punct .star; elementType g lines .pointer
  | .punct .tilde => do punct .tilde; elementType g lines .negated
  | .punct .lbracket => do punct .lbracket; return { kind := ← bracketType g lines }
  | .punct .lparen => do
    punct .lparen
    let _ ← g.type false
    punct .rparen
    return { kind := .parenthesized }
  | .punct .arrow => do punct .arrow; keyword .chan_; elementType g lines .channel
  | .keyword .chan_ => do
    keyword .chan_
    let _ ← accept (.punct .arrow)
    elementType g lines .channel
  | .keyword .map_ => do
    keyword .map_
    punct .lbracket
    let _ ← g.type false
    punct .rbracket
    elementType g lines .map
  | .keyword .func_ => do keyword .func_; signature g lines; return { kind := .function }
  | .keyword .struct_ => do
    let struct ← keywordNodes .struct_
    let fields ← phrase "field_declaration_list" (do return (← punctNodes .lbrace) ++ (← g.fields))
    return { kind := .struct, children := struct ++ fields }
  | .keyword .interface_ => do
    keyword .interface_
    punct .lbrace
    g.interfaceElems
    return { kind := .interface }
  | _ => failure

def moreBracketed (g : Phrases) (first : Form) : Reader (List Form × Bool) := do
  if ← accept (.punct .comma) then
    if ← accept (.punct .rbracket) then return ([first], true)
    else do
      let (fs, trailing) ← g.bracketed
      return (first :: fs, trailing)
  else do
    punct .rbracket
    return ([first], false)

/-- What stands between brackets after a name: values or constraints, with a comma between two of
them, and whether a comma ends them. -/
def bracketed (g : Phrases) : Reader (List Form × Bool) := do
  moreBracketed g (← g.expression {})

/-- Reads a bracket after a name, and decides whether an array or slice type follows the name or
the name has type arguments. Gives `true` in the first case. -/
def bracketAfterName (g : Phrases) (lines : Bool) : Reader Bool := do
  punct .lbracket
  if ← accept (.punct .rbracket) then do
    let _ ← g.type lines
    return true
  else do
    let (fs, trailing) ← g.bracketed
    let t ← peek
    let arguments := fs.all Form.isConstraint
    if startsAnyType t.kind && !(arguments && !goesOn lines t) then do
      require (fs.length = 1 && !trailing && fs.all Form.isValue)
      let _ ← g.type lines
      return true
    else do
      require arguments
      return false

/-- One parameter: a type, a name and a type, or either with dots in front of the type. -/
def param (g : Phrases) : Reader Unit := do
  let t ← peek
  if t.kind = .punct .ellipsis then do
    punct .ellipsis
    let _ ← g.type false
  else if t.kind = .name then do
    let u ← peekSecond
    if u.kind = .punct .dot then do
      let _ ← typeName g false
    else do
      name
      if u.kind = .punct .ellipsis then do
        punct .ellipsis
        let _ ← g.type false
      else if u.kind = .punct .lbracket then do
        let _ ← bracketAfterName g false
      else if startsAnyType u.kind then do
        let _ ← g.type false
  else do
    let _ ← g.type false

def params (g : Phrases) : Reader Unit := do
  if ← accept (.punct .rparen) then return
  else if ← accept (.punct .comma) then punct .rparen
  else do
    param g
    if ← accept (.punct .comma) then
      if ← accept (.punct .rparen) then return else g.params
    else punct .rparen

def moreTypes (g : Phrases) (lines : Bool) : Nat → Reader Unit
  | 0 => stop .depth
  | n + 1 => do
    if ← acceptOn lines (.punct .pipe) then do
      let _ ← g.type lines
      moreTypes g lines n

def union (g : Phrases) (lines : Bool) : Reader Unit := do
  let _ ← g.type lines
  moreTypes g lines ((← remaining) + 1)

/-- Type parameters, the first bracket of which has been read: names, and the constraint of the
names before it. -/
def typeParams (g : Phrases) : Reader Unit := do
  name
  if ← accept (.punct .comma) then g.typeParams
  else do
    union g false
    if ← accept (.punct .comma) then
      if ← accept (.punct .rbracket) then return else g.typeParams
    else punct .rbracket

/-- A type as the part of another phrase. -/
def typeNodes (r : Reader TypeNode) : Reader (List Node) := do
  let (type, comments, extent) ← spanned r
  return comments ++ [extent.node type.kind.label true (some "type") type.children]

def typeNameNodes (g : Phrases) : Reader (List Node) :=
  typeNodes (do return { kind := ← typeName g true })

def fieldName : Reader (List Node) := leafNodes .name "field_identifier" (some "name")

def embeddedName : Reader (List Node) := leafNodes .name "type_identifier" (some "type")

def moreNames : Nat → Reader (List Node)
  | 0 => stop .depth
  | n + 1 => do
    if (← peek).kind = .punct .comma then
      return (← punctNodes .comma) ++ (← fieldName) ++ (← moreNames n)
    else return []

/-- A name with an array or slice type, or an embedded type with type arguments. -/
def bracketField (g : Phrases) : Reader (List Node) := do
  let t ← token .name
  let empty := (← peekSecond).kind = .punct .rbracket
  let (named, comments, extent) ← spanned (bracketAfterName g true)
  let lead := Trivia.comments t.lead
  if named then
    let kind := if empty then TypeKind.slice else .array
    return lead ++ t.toExtent.node "field_identifier" true (some "name") :: comments ++
      [extent.node kind.label true (some "type")]
  else
    let whole : Extent := { extent with start := t.start, row := t.row }
    return lead ++ [whole.node TypeKind.generic.label true (some "type")]

/-- A field that begins with a name: names with a type, or an embedded type. -/
def namedField (g : Phrases) : Reader (List Node) := do
  let u ← peekSecond
  if !goesOn true u then embeddedName
  else match u.kind with
    | .punct .comma => do
      let names := (← fieldName) ++ (← moreNames ((← remaining) + 1))
      return names ++ (← typeNodes (g.type true))
    | .punct .dot => typeNameNodes g
    | .punct .lbracket => bracketField g
    | k =>
      if startsAnyType k then do return (← fieldName) ++ (← typeNodes (g.type true))
      else embeddedName

def field (g : Phrases) : Reader (List Node) := do
  let type ←
    if (← peek).kind = .punct .star then do
      pure ((← punctNodes .star) ++ (← typeNameNodes g))
    else namedField g
  let t ← peek
  if goesOn true t ∧ t.kind = .string then
    let kind : Text :=
      if t.text.head? = some (.scalar '`') then "raw_string_literal"
      else "interpreted_string_literal"
    return type ++ (← leafNodes .string kind (some "tag"))
  else return type

def fields (g : Phrases) : Reader (List Node) := do
  if (← peek).kind = .punct .rbrace then punctNodes .rbrace
  else do
    let field ← phrase "field_declaration" (field g)
    match ← terminatorNodes with
    | some ends => return field ++ ends ++ (← g.fields)
    | none => return field ++ (← punctNodes .rbrace)

def interfaceElem (g : Phrases) : Reader Unit := do
  let t ← peek
  let u ← peekSecond
  if t.kind = .name ∧ u.kind = .punct .lparen ∧ goesOn true u then do
    name
    signature g true
  else do
    union g true

def interfaceElems (g : Phrases) : Reader Unit := do
  if ← accept (.punct .rbrace) then return
  else do
    interfaceElem g
    if ← terminator then g.interfaceElems else punct .rbrace

end StructCli.Go.Grammar
