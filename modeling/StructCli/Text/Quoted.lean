import StructCli.Text.Basic
import StructCli.Text.Property.Printable

/-! # Quoted text

A quoted text stands between single quotes, or between double quotes if it holds a single quote
and no double one. What cannot be seen is written by its number.
-/

namespace StructCli

namespace CodePoint

def isPrintable : CodePoint → Bool
  | scalar c =>
    if c.toNat < 128 then 32 ≤ c.toNat && c.toNat < 127
    else !(Property.hiddenRanges.any fun r => r.1 ≤ c.toNat && c.toNat ≤ r.2)
  | surrogate _ => false

end CodePoint

namespace Text

/-- The last `width` hexadecimal digits of a number. -/
def hexDigits : Nat → Nat → Text
  | 0, _ => []
  | width + 1, n => hexDigits width (n / 16) ++ [.scalar (Nat.digitChar (n % 16))]

/-- The shortest of the escapes with two, four and eight digits. -/
def numericEscape (n : Nat) : Text :=
  if n < 0x100 then .scalar '\\' :: .scalar 'x' :: hexDigits 2 n
  else if n < 0x10000 then .scalar '\\' :: .scalar 'u' :: hexDigits 4 n
  else .scalar '\\' :: .scalar 'U' :: hexDigits 8 n

def quotedUnit (quote : Char) (c : CodePoint) : Text :=
  if c = .scalar quote ∨ c = .scalar '\\' then [.scalar '\\', c]
  else if c = .scalar '\n' then "\\n"
  else if c = .scalar '\r' then "\\r"
  else if c = .scalar '\t' then "\\t"
  else if c.isPrintable then [c]
  else numericEscape c.value

/-- Double quotes are used only where they save an escape. -/
def quoteFor (t : Text) : Char :=
  if .scalar '\'' ∈ t ∧ .scalar '"' ∉ t then '"' else '\''

def quoted (t : Text) : Text :=
  .scalar (quoteFor t) :: t.flatMap (quotedUnit (quoteFor t)) ++ [.scalar (quoteFor t)]

end Text

end StructCli
