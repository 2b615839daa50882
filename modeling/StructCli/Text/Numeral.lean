import StructCli.Text.Basic

/-! # Numerals

Decimal numerals of unbounded size, except that a numeral of more than 4300 digits is refused.
-/

namespace StructCli.Numeral

/-- The greatest number of digits, leading zeros counted. -/
def digitLimit : Nat := 4300

structure TooLong where
  digits : Nat
  deriving DecidableEq, Repr

def digitValue (c : CodePoint) : Nat := c.value - 48

def value (digits : Text) : Nat := digits.foldl (fun n c => 10 * n + digitValue c) 0

def isUnsigned (t : Text) : Bool := !t.isEmpty && t.all CodePoint.isAsciiDigit

def read (digits : Text) : Except TooLong Nat :=
  if digits.length ≤ digitLimit then .ok (value digits) else .error ⟨digits.length⟩

def write (n : Nat) : Except TooLong Text :=
  let t := Text.ofNat n
  if t.length ≤ digitLimit then .ok t else .error ⟨t.length⟩

def signed? : Text → Option (Bool × Text)
  | .scalar '-' :: ds => if isUnsigned ds then some (true, ds) else none
  | .scalar '+' :: ds => if isUnsigned ds then some (false, ds) else none
  | ds => if isUnsigned ds then some (false, ds) else none

end StructCli.Numeral
