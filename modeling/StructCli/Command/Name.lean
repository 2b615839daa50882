import StructCli.Text.Casing

/-! # Command names

A command is named after its package: the words of the package name, in lower case, with hyphens
between them. A word begins at a change between digits and letters, at a capital after a small
letter, and at the last capital of a run before a small letter.
-/

namespace StructCli.Command

/-- A word begins between the adjacent characters `prev` and `c`, of which the second is followed
by `next`. -/
def startsWord (prev c : CodePoint) (next : Option CodePoint) : Bool :=
  c.isDigit != prev.isDigit ||
    c.isUpper && (prev.isLower || prev.isUpper && next.any CodePoint.isLower)

/-- The words of a name. Characters that are neither letters nor numerals stand between words. -/
def nameWords : Text → List Text
  | [] => []
  | c :: r =>
    if c.isAlphanumeric then
      match r with
      | [] => [[c]]
      | d :: s =>
        if d.isAlphanumeric && !startsWord c d s.head? then (nameWords r).modifyHead (c :: ·)
        else [c] :: nameWords r
    else nameWords r

def nameOfPackage (package : Text) : Text :=
  Text.joinWith "-" ((nameWords package).map Text.lower)

end StructCli.Command
