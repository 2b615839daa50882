import StructCli.Text.Basic

/-! # Slices

Positions in a text are counted in bytes of its UTF-8 form. A slice holds the characters that begin
between two positions.
-/

namespace StructCli

def CodePoint.utf8Size : CodePoint → Nat
  | scalar c => c.utf8Size
  | surrogate _ => 3

namespace Text

def utf8Size : Text → Nat
  | [] => 0
  | c :: t => c.utf8Size + utf8Size t

/-- Drops the characters that begin in the first `n` bytes. -/
def dropBytes : Nat → Text → Text
  | _, [] => []
  | n, c :: t => if n = 0 then c :: t else dropBytes (n - c.utf8Size) t

def takeBytes : Nat → Text → Text
  | _, [] => []
  | n, c :: t => if n = 0 then [] else c :: takeBytes (n - c.utf8Size) t

def slice (t : Text) (start stop : Nat) : Text := takeBytes (stop - start) (dropBytes start t)

def lineFeeds (t : Text) : Nat := t.count (.scalar '\n')

end Text

end StructCli
