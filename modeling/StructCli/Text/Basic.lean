/-! # Text

A text is a list of code points. A code point is a scalar value or one half of a surrogate pair;
halves come only from escapes that name them.
-/

namespace StructCli

/-- A Unicode code point. -/
inductive CodePoint where
  | scalar (c : Char)
  | surrogate (half : Fin 2048)
  deriving DecidableEq, Inhabited, Repr

abbrev Text := List CodePoint

namespace CodePoint

instance : Coe Char CodePoint := ⟨scalar⟩

def value : CodePoint → Nat
  | scalar c => c.toNat
  | surrogate half => 0xD800 + half.val

def ofNat? (n : Nat) : Option CodePoint :=
  if h : 0xD800 ≤ n ∧ n < 0xE000 then some (surrogate ⟨n - 0xD800, by omega⟩)
  else if n < 0x110000 then some (scalar (Char.ofNat n))
  else none

/-- White space, in the sense of the Unicode property together with the four separators
U+001C to U+001F. -/
def isBlank (c : CodePoint) : Bool :=
  let n := c.value
  (9 ≤ n && n ≤ 13) || (28 ≤ n && n ≤ 32) || n == 0x85 || n == 0xA0 || n == 0x1680 ||
    (0x2000 ≤ n && n ≤ 0x200A) || n == 0x2028 || n == 0x2029 || n == 0x202F || n == 0x205F ||
    n == 0x3000

def isAsciiDigit (c : CodePoint) : Bool := 48 ≤ c.value && c.value ≤ 57

def isAsciiLetter (c : CodePoint) : Bool :=
  (65 ≤ c.value && c.value ≤ 90) || (97 ≤ c.value && c.value ≤ 122)

end CodePoint

namespace Text

def ofString (s : String) : Text := s.toList.map .scalar

instance : Coe String Text := ⟨ofString⟩

/-- The scalar values of a text that holds no surrogate. -/
def toChars? (t : Text) : Option (List Char) :=
  t.mapM fun
    | .scalar c => some c
    | .surrogate _ => none

def toString? (t : Text) : Option String := (toChars? t).map String.ofList

def ofNat (n : Nat) : Text := (Nat.toDigits 10 n).map .scalar

def ofInt : Int → Text
  | .ofNat n => ofNat n
  | .negSucc n => .scalar '-' :: ofNat (n + 1)

def stripStart (t : Text) : Text := t.dropWhile CodePoint.isBlank

def stripEnd (t : Text) : Text := (t.reverse.dropWhile CodePoint.isBlank).reverse

def strip (t : Text) : Text := stripEnd (stripStart t)

/-- What follows the opening `p` of a text. -/
def dropPrefix? : Text → Text → Option Text
  | t, [] => some t
  | [], _ :: _ => none
  | c :: t, d :: p => if c = d then dropPrefix? t p else none

/-- The pieces between the separators: one more than there are separators. -/
def splitAt (sep : CodePoint) : Text → List Text
  | [] => [[]]
  | c :: r => if c = sep then [] :: splitAt sep r else (splitAt sep r).modifyHead (c :: ·)

def joinWith (sep : Text) (parts : List Text) : Text := sep.intercalate parts

/-- The maximal runs of characters other than white space. -/
def words : Text → List Text
  | [] => []
  | c :: r =>
    if c.isBlank then words r
    else match r with
      | [] => [[c]]
      | d :: _ => if d.isBlank then [c] :: words r else (words r).modifyHead (c :: ·)

end Text

end StructCli
