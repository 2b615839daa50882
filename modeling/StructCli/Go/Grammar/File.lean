import StructCli.Go.Grammar.Statement
import StructCli.Go.Lexer
import StructCli.Go.Source

/-! # Files

A file is a list of package clauses, declarations and statements, each of them terminated.
-/

namespace StructCli.Go

namespace Grammar

open Reader

def importSpec : Reader Unit := do
  let t ← peek
  if t.kind = .name ∨ t.kind = .punct .dot then do
    let _ ← next
  expect .string

def importSpecs (g : Phrases) : Reader Unit := do
  if ← accept (.punct .rparen) then return
  else do
    importSpec
    if ← terminator then g.importSpecs else punct .rparen

def importDeclaration (g : Phrases) : Reader Unit := do
  keyword .import_
  if ← accept (.punct .lparen) then g.importSpecs else importSpec

def functionRest (g : Phrases) : Reader Unit := do
  signature g true
  let t ← peek
  if goesOn true t ∧ t.kind = .punct .lbrace then block g

def functionDeclaration (g : Phrases) : Reader Unit := do
  keyword .func_
  name
  if ← accept (.punct .lbracket) then g.typeParams
  functionRest g

def methodDeclaration (g : Phrases) : Reader Unit := do
  keyword .func_
  punct .lparen
  g.params
  name
  functionRest g

/-- The phrases that are nested at most `n` deep. -/
def phrases : Nat → Phrases
  | 0 => {
    type := fun _ => stop .depth
    constraints := stop .depth
    typeParams := stop .depth
    params := stop .depth
    fields := stop .depth
    interfaceElems := stop .depth
    expression := fun _ => stop .depth
    expressions := fun _ _ => stop .depth
    unary := fun _ => stop .depth
    binary := fun _ _ => stop .depth
    suffixed := fun _ _ => stop .depth
    arguments := stop .depth
    elements := stop .depth
    bracketed := stop .depth
    block := stop .depth
    statement := stop .depth
    statements := stop .depth
    cases := fun _ => stop .depth
    communications := stop .depth
    names := fun _ => stop .depth
    constSpecs := stop .depth
    varSpecs := stop .depth
    importSpecs := stop .depth
    typeSpecs := stop .depth }
  | n + 1 =>
    let g := phrases n
    { type := type g
      constraints := constraints g
      typeParams := typeParams g
      params := params g
      fields := fields g
      interfaceElems := interfaceElems g
      expression := expression g
      expressions := expressions g
      unary := unary g
      binary := binary g
      suffixed := suffixed g
      arguments := arguments g
      elements := elements g
      bracketed := bracketed g
      block := block g
      statement := statement g
      statements := statements g
      cases := cases g
      communications := communications g
      names := names g
      constSpecs := constSpecs g
      varSpecs := varSpecs g
      importSpecs := importSpecs g
      typeSpecs := typeSpecs g }

def packageClause : Reader (List Node) := do
  return (← keywordNodes .package_) ++ (← leafNodes .name "package_identifier" none)

/-- A function, a method, or a statement that begins with a function. Gives `true` if the end of the
file may end it. -/
def functionItem (g : Phrases) : Reader Bool := do
  if (← peekSecond).kind = .name then do
    functionDeclaration g
    return true
  else (do methodDeclaration g; return true) <|> statement g

/-- What stands at the level of a file: the kind and the children of its node, and whether the end
of the file may end it. -/
structure Item where
  kind : Text
  children : List Node := []
  mayEnd : Bool := true

/-- A file-level phrase. Clauses, imports, functions and values may stand at the end of a file;
anything else has to be terminated. -/
def item (g : Phrases) : Reader Item := do
  match (← peek).kind with
  | .keyword .package_ => return { kind := "package_clause", children := ← packageClause }
  | .keyword .import_ => do
    importDeclaration g
    return { kind := "import_declaration" }
  | .keyword .func_ => return { kind := "function_declaration", mayEnd := ← functionItem g }
  | .keyword .type_ =>
    return { kind := "type_declaration", children := ← typeDeclaration g, mayEnd := false }
  | _ => return { kind := "statement", mayEnd := ← statement g }

def items (g : Phrases) : Nat → Reader (List Node)
  | 0 => stop .depth
  | n + 1 => do
    let t ← peek
    if t.kind = .eof then return Trivia.comments t.lead
    else do
      let (item, comments, extent) ← spanned (item g)
      let placed := comments ++ [extent.node item.kind true none item.children]
      match ← terminatorNodes with
      | some ends => return placed ++ ends ++ (← items g n)
      | none => do
        let t ← peek
        require (item.mayEnd && t.kind = .eof)
        return placed ++ Trivia.comments t.lead

def file (ts : List Token) : Except Stop (List Node) := do
  let (nodes, _) ← (items (phrases (4 * ts.length + 16)) (ts.length + 1)).run ts
  return nodes

end Grammar

/-- Reads the tree of a source. Functions, statements and imports are kept without their parts. A
phrase that is nested more deeply than the reader goes counts as an error, too. -/
def readTree : TreeParser := fun source =>
  let root (rows : Nat) (children : List Node) : Node :=
    Extent.node ⟨0, source.length, 0, rows⟩ "source_file" true none children
  match Utf8.decode source with
  | .error _ => ⟨root 0 [], true⟩
  | .ok chars =>
    let text : Text := chars.map .scalar
    match Grammar.file (Token.ofSource text) with
    | .error _ => ⟨root text.lineFeeds [], true⟩
    | .ok nodes => ⟨root text.lineFeeds nodes, false⟩

def readPackage : DeclarationParser := declarationParser readTree

end StructCli.Go
