import StructCli.Go.Literal

/-! # Struct tags

A struct tag is a sequence of pairs `name:"value"`. It ends at the first place where no pair
stands, and the value of a name is the value of its first pair.
-/

namespace StructCli.Go

namespace StructTag

/-- Names are made of the characters above the space other than the colon, the double quote and
the delete character. -/
def isNameChar (c : CodePoint) : Bool :=
  0x20 < c.value && c ≠ .scalar ':' && c ≠ .scalar '"' && c.value ≠ 0x7F

/-- The text up to the closing quote, and what follows the quote. A backslash takes the next
character with it. -/
def body? : Text → Option (Text × Text)
  | [] => none
  | .scalar '"' :: r => some ([], r)
  | .scalar '\\' :: [] => none
  | .scalar '\\' :: c :: r => (body? r).map fun p => (.scalar '\\' :: c :: p.1, p.2)
  | c :: r => (body? r).map fun p => (c :: p.1, p.2)

def pair? (tag : Text) : Option (Text × Text × Text) :=
  let t := tag.dropWhile (· = .scalar ' ')
  match t.takeWhile isNameChar, t.dropWhile isNameChar with
  | [], _ => none
  | name, .scalar ':' :: .scalar '"' :: r => (body? r).map fun p => (name, p)
  | _, _ => none

/-- The first `fuel` pairs of a tag. -/
def pairsUpTo : Nat → Text → List (Text × Text)
  | 0, _ => []
  | fuel + 1, tag =>
    match pair? tag with
    | some (name, body, rest) => (name, body) :: pairsUpTo fuel rest
    | none => []

def pairs (tag : Text) : List (Text × Text) := pairsUpTo tag.length tag

/-- The literal that a body was cut from. -/
def enclose (body : Text) : Text := .scalar '"' :: body ++ [.scalar '"']

/-- The value of a name. A body that is no literal hides the name; only a number that needs more
than 31 bits is reported. -/
def lookup (tag key : Text) : Except LiteralError (Option Text) :=
  match (pairs tag).lookup key with
  | none => .ok none
  | some body =>
    match Literal.unquote (enclose body) with
    | .ok v => .ok (some v)
    | .error .overflow => .error .overflow
    | .error _ => .ok none

end StructTag

end StructCli.Go
