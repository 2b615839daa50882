import StructCli.Go.Tree
import StructCli.Report
import StructCli.Text.Utf8

/-! # Sources

The declarations of a source file are read off its syntax tree: the package clause, the types and
their docs. The last package clause counts.
-/

namespace StructCli.Go

structure TypePlace where
  declaration : Placed
  spec : Placed
  name : Node
  body : Node

/-- The package clauses of a file, each with the identifier in it. -/
def packageClauses (root : Node) : List (Placed × Node) :=
  if root.is "source_file" then
    (root.parts "package_clause").flatMap fun clause =>
      (clause.node.children.filter (Node.is "package_identifier")).map fun name => (clause, name)
  else []

/-- Each name among the parts of a specification, with each of the types after it. -/
def namedBodies : List Node → List (Node × Node)
  | [] => []
  | n :: after =>
    (if n.labelled "name" && n.is "type_identifier" then
      (after.filter fun t => t.labelled "type" && t.named).map fun body => (n, body)
    else []) ++ namedBodies after

def Placed.types (declaration : Placed) : List TypePlace :=
  (declaration.node.parts "type_spec").flatMap fun spec =>
    (namedBodies spec.node.children).map fun (name, body) => ⟨declaration, spec, name, body⟩

def typePlaces (root : Node) : List TypePlace :=
  if root.is "source_file" then (root.parts "type_declaration").flatMap Placed.types else []

namespace TypePlace

def start (p : TypePlace) : Nat := p.spec.node.start

def insert (p : TypePlace) : List TypePlace → List TypePlace
  | [] => [p]
  | q :: qs => if p.start ≤ q.start then p :: q :: qs else q :: insert p qs

/-- Sorts by where specifications start, and keeps the order of those that start together. -/
def sort (ps : List TypePlace) : List TypePlace := ps.foldr insert []

def alone (p : TypePlace) : Bool := (p.declaration.node.parts "type_spec").length = 1

/-- A specification without a doc of its own takes that of its declaration, if it is alone there. -/
def doc (source : Text) (p : TypePlace) : Text :=
  let own := p.spec.doc source
  if own = [] ∧ p.alone then p.declaration.doc source else own

def fields (p : TypePlace) : Option (List Placed) :=
  if p.body.kind = structKind then
    some ((p.body.children.find? (Node.is "field_declaration_list")).elim []
      (Node.parts "field_declaration"))
  else none

end TypePlace

/-- A field as it is declared. An embedded type keeps what stands before it. -/
def fieldDecl (source : Text) (p : Placed) : FieldDecl :=
  let parts := p.node.children
  let names := parts.filter (Node.labelled "name")
  { names := names.map (Node.text source)
    doc := p.doc source
    tag := (parts.find? (Node.labelled "tag")).map (Node.text source)
    type := (parts.find? (Node.labelled "type")).elim [] fun type =>
      if names.isEmpty then source.slice p.node.start type.stop else type.text source }

def typeDecl (source : Text) (p : TypePlace) : TypeDecl :=
  { name := p.name.text source
    doc := p.doc source
    kind := p.body.kind
    fields := p.fields.map (List.map (fieldDecl source)) }

def packageOfTree (source : Text) (tree : SyntaxTree) : Except SourceFault PackageDecl :=
  if tree.hasError then .error .syntaxError
  else match (packageClauses tree.root).getLast? with
    | none => .error .noPackage
    | some (clause, name) => .ok {
        name := name.text source
        doc := clause.doc source
        types := (TypePlace.sort (typePlaces tree.root)).map (typeDecl source) }

def packageOfBytes (parse : TreeParser) (source : List UInt8) : Except SourceFault PackageDecl :=
  match Utf8.decode source with
  | .error fault => .error (.encoding fault.message)
  | .ok chars => packageOfTree (chars.map .scalar) (parse source)

/-- Reads declarations off the trees of a parser. -/
def declarationParser (parse : TreeParser) : DeclarationParser := fun filename source =>
  match packageOfBytes parse source with
  | .error fault => Report.fail (.source filename fault)
  | .ok package => do
    Report.note (.packageParsed package.name filename package.types.length)
    return package

end StructCli.Go
