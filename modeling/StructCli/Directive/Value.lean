import StructCli.Directive.Basic
import StructCli.Text.Numeral

/-! # Directive values

The value of an `arg` directive is a number, or bounds between brackets. The value of a `flag`
directive is a long name, after which a comma and a letter may stand.
-/

namespace StructCli

inductive Malformation where
  | empty
  | argShape
  | emptyBrackets
  | notInteger (bound : ArgSpec.Bound) (text : Text)
  | negative (bound : ArgSpec.Bound) (index : Int)
  | stopNotAfterStart (stop start : Nat)
  | flagShape
  deriving DecidableEq, Repr

def Malformation.message : Malformation → Text
  | empty => "directive is present but empty"
  | argShape => "expected N, [N], [S:E], [S:], [:E] or [:]"
  | emptyBrackets => "empty brackets"
  | notInteger bound text => bound.label ++ " " ++ Text.quoted text ++ " is not an integer"
  | negative bound index => bound.label ++ " " ++ Text.ofInt index ++ " is negative"
  | stopNotAfterStart stop start =>
    "range end " ++ Text.ofNat stop ++ " must be greater than start " ++ Text.ofNat start
  | flagShape => "expected a long name optionally followed by ', X'"

inductive DirectiveError where
  | malformed (kind : DirectiveKind) (value : Text) (reason : Malformation)
  | numeral (e : Numeral.TooLong)
  deriving DecidableEq, Repr

def Numeral.TooLong.message (e : Numeral.TooLong) : Text :=
  "Exceeds the limit (4300 digits) for integer string conversion: value has " ++
    Text.ofNat e.digits ++
    " digits; use sys.set_int_max_str_digits() to increase the limit"

def DirectiveError.message : DirectiveError → Text
  | malformed kind value reason =>
    "Malformed " ++ kind.label ++ " directive " ++ Text.quoted value ++ ": " ++ reason.message
  | numeral e => e.message

namespace ArgSpec

/-- The written form, which is refused where one of its numerals is. -/
def write (a : ArgSpec) : Except Numeral.TooLong Text := do
  if !a.isRange then return "arg:" ++ (← Numeral.write a.start)
  else match a.stop with
    | some stop =>
      return "arg:[" ++ (← Numeral.write a.start) ++ ":" ++ (← Numeral.write stop) ++ "]"
    | none =>
      if a.start = 0 then return "arg:[:]"
      else return "arg:[" ++ (← Numeral.write a.start) ++ ":]"

def describe (a : ArgSpec) : Except Numeral.TooLong Text := do
  let start ← Numeral.write a.start
  let stop ← match a.stop with
    | some n => Numeral.write n
    | none => .ok "-1"
  return "ArgSpec(start=" ++ start ++ ", end=" ++ stop ++ ")"

def readDigits (digits : Text) : Except DirectiveError Nat :=
  (Numeral.read digits).mapError .numeral

/-- The index that a bound denotes. `raw` is the whole value, for the report. -/
def readBound (raw : Text) (bound : Bound) (t : Text) : Except DirectiveError Nat := do
  match Numeral.signed? t.strip with
  | none => .error (.malformed .arg raw (.notInteger bound t.strip))
  | some (negative, digits) =>
    let n ← readDigits digits
    if negative ∧ n ≠ 0 then .error (.malformed .arg raw (.negative bound (-n))) else return n

/-- The text between brackets, if it holds no closing bracket. -/
def bracketed? : Text → Option Text
  | .scalar '[' :: r =>
    if r.getLast? = some (.scalar ']') ∧ .scalar ']' ∉ r.dropLast then some r.dropLast else none
  | _ => none

def readRange (raw left right : Text) : Except DirectiveError ArgSpec := do
  let start ← if left = [] then pure 0 else readBound raw .start left
  if right = [] then return ⟨start, none⟩
  let stop ← readBound raw .stop right
  if stop ≤ start then .error (.malformed .arg raw (.stopNotAfterStart stop start))
  else return ⟨start, some stop⟩

/-- What stands between the brackets: a position, or two bounds with a colon between them. -/
def readBrackets (raw inner : Text) : Except DirectiveError ArgSpec := do
  if inner = [] then .error (.malformed .arg raw .emptyBrackets)
  else match inner.dropWhile (· ≠ .scalar ':') with
    | [] => return position (← readBound raw .start inner)
    | _ :: right => readRange raw (inner.takeWhile (· ≠ .scalar ':')) right

def readStripped (v : Text) : Except DirectiveError ArgSpec := do
  if v = [] then .error (.malformed .arg v .empty)
  else if Numeral.isUnsigned v then return position (← readDigits v)
  else match bracketed? v with
    | none => .error (.malformed .arg v .argShape)
    | some inner => readBrackets v inner

def ofValue (value : Text) : Except DirectiveError ArgSpec := readStripped value.strip

end ArgSpec

namespace FlagSpec

def isNameChar (c : CodePoint) : Bool :=
  c.isAsciiLetter || c.isAsciiDigit || c == .scalar '_' || c == .scalar '-'

/-- A long name has two characters at least, of which the first is a letter. -/
def isLongName : Text → Bool
  | c :: d :: r => c.isAsciiLetter && (d :: r).all isNameChar
  | _ => false

def readShort? : Text → Option Text
  | [] => some []
  | .scalar ',' :: r =>
    match Text.stripStart r with
    | [c] => if c.isAsciiLetter then some [c] else none
    | _ => none
  | _ => none

def readStripped? (v : Text) : Option FlagSpec := do
  let long := v.takeWhile isNameChar
  guard (isLongName long)
  let short ← readShort? (v.dropWhile isNameChar)
  return ⟨long, short⟩

def ofValue (value : Text) : Except DirectiveError FlagSpec :=
  let v := value.strip
  if v = [] then .error (.malformed .flag v .empty)
  else match readStripped? v with
    | some f => .ok f
    | none => .error (.malformed .flag v .flagShape)

end FlagSpec

end StructCli
