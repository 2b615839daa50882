import StructCli.Text.Quoted

/-! # String literals

The value of a Go string literal. A raw literal stands between backquotes and loses its carriage
returns; an interpreted one stands between double quotes and has escapes.
-/

namespace StructCli.Go

inductive LiteralError where
  | unquoted (literal : Text)
  | invalid (literal : Text)
  | invalidEscape (escape : Text) (literal : Text)
  | notCodePoint
  | overflow
  deriving DecidableEq, Repr

def LiteralError.message : LiteralError → Text
  | unquoted literal => "not a Go string literal: " ++ Text.quoted literal
  | invalid literal => "invalid Go string literal: " ++ Text.quoted literal
  | invalidEscape escape literal =>
    "invalid escape \\" ++ escape ++ " in " ++ Text.quoted literal
  | notCodePoint => "chr() arg not in range(0x110000)"
  | overflow => "Python int too large to convert to C int"

namespace Literal

def between? (quote : Char) : Text → Option Text
  | [] => none
  | c :: r =>
    if c = .scalar quote ∧ r.getLast? = some (.scalar quote) then some r.dropLast else none

/-- A double quote that an even number of backslashes precedes. `odd` says whether the number of
backslashes just before the text is odd. -/
def hasBareQuote : Bool → Text → Bool
  | _, [] => false
  | odd, c :: r =>
    if c = .scalar '\\' then hasBareQuote (!odd) r
    else (c = .scalar '"' && !odd) || hasBareQuote false r

def hexValue? : CodePoint → Option Nat
  | .scalar c =>
    if '0' ≤ c ∧ c ≤ '9' then some (c.toNat - 48)
    else if 'a' ≤ c ∧ c ≤ 'f' then some (c.toNat - 87)
    else if 'A' ≤ c ∧ c ≤ 'F' then some (c.toNat - 55)
    else none
  | .surrogate _ => none

/-- The value of the first `width` characters as hexadecimal digits, after the digits of `acc`. -/
def hexNumber? : Nat → Nat → Text → Option Nat
  | acc, 0, _ => some acc
  | _, _ + 1, [] => none
  | acc, width + 1, c :: r => do hexNumber? (16 * acc + (← hexValue? c)) width r

def octalValue? (c : CodePoint) : Option Nat :=
  if 48 ≤ c.value ∧ c.value ≤ 55 then some (c.value - 48) else none

def octalNumber? : Text → Option Nat
  | a :: b :: c :: _ => do
    let x ← octalValue? a
    guard (x ≤ 3)
    return 64 * x + 8 * (← octalValue? b) + (← octalValue? c)
  | _ => none

def simpleEscape? : CodePoint → Option Nat
  | .scalar 'a' => some 7
  | .scalar 'b' => some 8
  | .scalar 'f' => some 12
  | .scalar 'n' => some 10
  | .scalar 'r' => some 13
  | .scalar 't' => some 9
  | .scalar 'v' => some 11
  | .scalar '\\' => some 92
  | .scalar '"' => some 34
  | _ => none

/-- The escape after a backslash: the number that it denotes, and how many characters it takes. -/
def escape? : Text → Option (Nat × Nat)
  | [] => none
  | c :: r =>
    match simpleEscape? c with
    | some n => some (n, 1)
    | none =>
      if c = .scalar 'x' then (hexNumber? 0 2 r).map (·, 3)
      else if c = .scalar 'u' then (hexNumber? 0 4 r).map (·, 5)
      else if c = .scalar 'U' then (hexNumber? 0 8 r).map (·, 9)
      else (octalNumber? (c :: r)).map (·, 3)

/-- The code point of an escape. A number that needs more than 31 bits is a fault of its own. -/
def codePoint (n : Nat) : Except LiteralError CodePoint :=
  match CodePoint.ofNat? n with
  | some c => .ok c
  | none => .error (if n < 0x80000000 then .notCodePoint else .overflow)

/-- Replaces the escapes of a body, the first `pending` characters of which belong to an escape
that has been replaced. -/
def unescape (literal : Text) : Nat → Text → Except LiteralError Text
  | _, [] => .ok []
  | pending + 1, _ :: r => unescape literal pending r
  | 0, c :: r =>
    if c = .scalar '\\' then
      match escape? r with
      | none => .error (.invalidEscape (r.take 1) literal)
      | some (n, length) => do
        let d ← codePoint n
        return d :: (← unescape literal length r)
    else do return c :: (← unescape literal 0 r)

def interpret (literal body : Text) : Except LiteralError Text :=
  if .scalar '\n' ∈ body ∨ hasBareQuote false body then .error (.invalid literal)
  else unescape literal 0 body

def unquote (literal : Text) : Except LiteralError Text :=
  match between? '`' literal with
  | some body => .ok (body.filter (· ≠ .scalar '\r'))
  | none =>
    match between? '"' literal with
    | some body => interpret literal body
    | none => .error (.unquoted literal)

end Literal

end StructCli.Go
