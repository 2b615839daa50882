import StructCli.Text.Basic

/-! # Number literals

How far a number literal extends. Integers have a base; floating point numbers are decimal or
hexadecimal; an `i` makes a number imaginary. Single underscores may stand between digits.
-/

namespace StructCli.Go.Number

def isDecimal (c : CodePoint) : Bool := c.isAsciiDigit

def isBinary (c : CodePoint) : Bool := c.value = 48 || c.value = 49

def isOctal (c : CodePoint) : Bool := 48 ≤ c.value && c.value ≤ 55

def isHex (c : CodePoint) : Bool :=
  c.isAsciiDigit || (65 ≤ c.value && c.value ≤ 70) || (97 ≤ c.value && c.value ≤ 102)

/-- The length of the digits that go on a run of digits. -/
def digitsAfter (p : CodePoint → Bool) : Text → Nat
  | [] => 0
  | [c] => if p c then 1 else 0
  | c :: d :: r =>
    if p c then 1 + digitsAfter p (d :: r)
    else if c = .scalar '_' ∧ p d then 2 + digitsAfter p r
    else 0

def digits (p : CodePoint → Bool) : Text → Nat
  | [] => 0
  | c :: r => if p c then 1 + digitsAfter p r else 0

def markedDigits (p : CodePoint → Bool) : Text → Nat
  | .scalar '_' :: r => let n := digits p r; if n = 0 then 0 else 1 + n
  | t => digits p t

def startsWithAny (cs : List Char) : Text → Bool
  | .scalar c :: _ => cs.contains c
  | _ => false

def exponent (letters : List Char) (t : Text) : Nat :=
  if startsWithAny letters t then
    let sign := if startsWithAny ['+', '-'] (t.drop 1) then 1 else 0
    let n := digits isDecimal (t.drop (1 + sign))
    if n = 0 then 0 else 1 + sign + n
  else 0

/-- The lengths of the literals with a base letter, of which at least one digit follows. -/
def based (p : CodePoint → Bool) (t : Text) : List Nat :=
  let n := markedDigits p (t.drop 2)
  if n = 0 then [1] else [2 + n]

/-- The lengths of a mantissa after `start` characters: digits, a point and digits. -/
def mantissas (start : Nat) (whole : Nat) (p : CodePoint → Bool) (t : Text) : List Nat :=
  let point := start + whole
  if startsWithAny ['.'] (t.drop point) then
    let fraction := digits p (t.drop (point + 1))
    if whole = 0 ∧ fraction = 0 then [] else [point + 1 + fraction]
  else []

def hexFloats (t : Text) : List Nat :=
  let whole := markedDigits isHex (t.drop 2)
  let plain := if whole = 0 then [] else [2 + whole]
  (plain ++ mantissas 2 whole isHex t).filterMap fun n =>
    let e := exponent ['p', 'P'] (t.drop n)
    if e = 0 then none else some (n + e)

def decimalFloats (t : Text) : List Nat :=
  let whole := digits isDecimal t
  let exponents := fun n => n + exponent ['e', 'E'] (t.drop n)
  (mantissas 0 whole isDecimal t).map exponents ++
    if whole ≠ 0 ∧ exponents whole ≠ whole then [exponents whole] else []

def plainIntegers (t : Text) : List Nat :=
  match t with
  | .scalar '0' :: r => [1 + markedDigits isOctal r]
  | _ => let n := digits isDecimal t; if n = 0 then [] else [n]

def realLengths (t : Text) : List Nat :=
  match t with
  | .scalar '0' :: .scalar c :: _ =>
    if c = 'x' ∨ c = 'X' then based isHex t ++ hexFloats t
    else if c = 'b' ∨ c = 'B' then based isBinary t
    else if c = 'o' ∨ c = 'O' then based isOctal t
    else plainIntegers t ++ decimalFloats t
  | _ => plainIntegers t ++ decimalFloats t

/-- The length of the longest number literal at the front of a text, zero if there is none. -/
def length (t : Text) : Nat :=
  let reals := realLengths t
  let imaginary := (digits isDecimal t :: reals).filterMap fun n =>
    if n ≠ 0 ∧ startsWithAny ['i'] (t.drop n) then some (n + 1) else none
  (reals ++ imaginary).foldl max 0

end StructCli.Go.Number
