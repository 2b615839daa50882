import StructCli.Text.Basic
import StructCli.Text.Property.Alphanumeric
import StructCli.Text.Property.CaseMap
import StructCli.Text.Property.Cased
import StructCli.Text.Property.Identifier

/-! # Character classes and letter case

The classes of letters, digits and identifier characters, and the full case mappings. A capital
sigma is lowered to its final form where it ends a word.
-/

namespace StructCli

def inRanges (ranges : List (Nat × Nat)) (n : Nat) : Bool :=
  ranges.any fun r => r.1 ≤ n && n ≤ r.2

namespace CodePoint

open Property

/-- Decimal digits and the characters of numeric type digit. -/
def isDigit (c : CodePoint) : Bool :=
  if c.value < 128 then c.isAsciiDigit else inRanges digitRanges c.value

/-- Letters and characters with a numeric value. -/
def isAlphanumeric (c : CodePoint) : Bool :=
  if c.value < 128 then c.isAsciiLetter || c.isAsciiDigit
  else inRanges alphanumericRanges c.value

def isUpper (c : CodePoint) : Bool :=
  if c.value < 128 then 65 ≤ c.value && c.value ≤ 90 else inRanges upperRanges c.value

def isLower (c : CodePoint) : Bool :=
  if c.value < 128 then 97 ≤ c.value && c.value ≤ 122 else inRanges lowerRanges c.value

def isCased (c : CodePoint) : Bool :=
  c.isUpper || c.isLower || inRanges titleRanges c.value

/-- Characters that are passed over when the case of a context is looked up. -/
def isCaseIgnorable (c : CodePoint) : Bool :=
  if c.value < 128 then [39, 46, 58, 94, 96].contains c.value
  else inRanges ignorableRanges c.value

def isIdentifierStart (c : CodePoint) : Bool :=
  if c.value < 128 then c.isAsciiLetter || c.value == 95
  else inRanges identifierStartRanges c.value

def isIdentifierPart (c : CodePoint) : Bool :=
  if c.value < 128 then c.isAsciiLetter || c.isAsciiDigit || c.value == 95
  else inRanges identifierPartRanges c.value

end CodePoint

namespace CaseMap

def shifted (runs : List (Nat × Nat × Nat × Int)) (n : Nat) : Nat :=
  match runs.find? fun r => r.1 ≤ n && n ≤ r.2.1 && (n - r.1) % r.2.2.1 == 0 with
  | some r => (n + r.2.2.2).toNat
  | none => n

/-- The image of a code point: a sequence of its own, or a single code point. -/
def image (sequences : List (Nat × List Nat)) (runs : List (Nat × Nat × Nat × Int))
    (c : CodePoint) : Text :=
  match sequences.lookup c.value with
  | some ns => ns.filterMap CodePoint.ofNat?
  | none => ((CodePoint.ofNat? (shifted runs c.value)).getD c) :: []

end CaseMap

namespace CodePoint

/-- The lower case form of a code point outside of any context. -/
def lower (c : CodePoint) : Text :=
  if c.value < 128 then [if c.isUpper then .scalar (Char.ofNat (c.value + 32)) else c]
  else CaseMap.image Property.toLowerSequences Property.toLowerRuns c

def upper (c : CodePoint) : Text :=
  if c.value < 128 then [if c.isLower then .scalar (Char.ofNat (c.value - 32)) else c]
  else CaseMap.image Property.toUpperSequences Property.toUpperRuns c

end CodePoint

namespace Text

def firstCased (t : Text) : Bool :=
  match t.dropWhile CodePoint.isCaseIgnorable with
  | [] => false
  | c :: _ => c.isCased

/-- A sigma is final if a cased letter stands before it and none after it, characters that
have no case of their own being passed over. `before` is read backwards. -/
def finalSigma (before after : Text) : Bool := firstCased before && !firstCased after

def lowerAfter (before : Text) : Text → Text
  | [] => []
  | c :: r =>
    (if c = .scalar 'Σ' then [.scalar (if finalSigma before r then 'ς' else 'σ')] else c.lower) ++
      lowerAfter (c :: before) r

def lower (t : Text) : Text := lowerAfter [] t

def upper (t : Text) : Text := t.flatMap CodePoint.upper

end Text

end StructCli
