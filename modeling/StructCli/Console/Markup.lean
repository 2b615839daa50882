import StructCli.Text.Basic

/-! # Markup

Texts for the console may hold style tags between brackets. A text is escaped before it is put
among them, and is shown without tags and escapes.
-/

namespace StructCli.Markup

/-- A tag begins with a small letter or one of three signs. -/
def opensTag (c : CodePoint) : Bool :=
  (97 ≤ c.value && c.value ≤ 122) || c = .scalar '#' || c = .scalar '/' || c = .scalar '@'

/-- The length of the tag after an opening bracket, its closing bracket counted. -/
def tagLength? : Text → Option Nat
  | [] => none
  | c :: r =>
    if opensTag c then
      let inner := r.takeWhile fun d => d ≠ .scalar '[' ∧ d ≠ .scalar ']'
      match r.drop inner.length with
      | .scalar ']' :: _ => some (inner.length + 2)
      | _ => none
    else none

def slashes (t : Text) : Nat := (t.takeWhile (· = .scalar '\\')).length

def tagAfter? (t : Text) : Option Nat :=
  match t.drop (slashes t) with
  | .scalar '[' :: r => tagLength? r
  | _ => none

/-- Doubles the backslashes in front of each tag and adds one. -/
def escapeTags (fuel : Nat) (t : Text) : Text :=
  match fuel, t with
  | 0, t => t
  | _, [] => []
  | fuel + 1, c :: r =>
    let n := slashes (c :: r)
    match tagAfter? (c :: r) with
    | some length =>
      List.replicate (2 * n + 1) (.scalar '\\') ++ ((c :: r).drop n).take (length + 1) ++
        escapeTags fuel ((c :: r).drop (n + length + 1))
    | none =>
      if n = 0 then c :: escapeTags fuel r
      else (c :: r).take n ++ escapeTags fuel ((c :: r).drop n)

/-- A text that shows as it is. A single backslash at its end is doubled, so that it does not
escape what follows. -/
def escape (t : Text) : Text :=
  let e := escapeTags t.length t
  match e.reverse with
  | .scalar '\\' :: .scalar '\\' :: _ => e
  | .scalar '\\' :: _ => e ++ [.scalar '\\']
  | _ => e

def plain : Text → Text
  | .scalar '\\' :: .scalar '[' :: r => .scalar '[' :: plain r
  | c :: r => c :: plain r
  | [] => []

/-- What is shown of a text with markup. `pending` holds, backwards, what stands before the text
and after the last tag. -/
def shownFrom (fuel : Nat) (pending t : Text) : Text :=
  match fuel, t with
  | 0, t => plain (pending.reverse ++ t)
  | _, [] => plain pending.reverse
  | fuel + 1, c :: r =>
    let n := slashes (c :: r)
    match tagAfter? (c :: r) with
    | some length =>
      let tag := ((c :: r).drop n).take (length + 1)
      plain pending.reverse ++ List.replicate (n / 2) (.scalar '\\') ++
        (if n % 2 = 1 then tag else []) ++ shownFrom fuel [] ((c :: r).drop (n + length + 1))
    | none =>
      if n = 0 then shownFrom fuel (c :: pending) r
      else shownFrom fuel (((c :: r).take n).reverse ++ pending) ((c :: r).drop n)

def shown (t : Text) : Text := if .scalar '[' ∈ t then shownFrom t.length [] t else t

end StructCli.Markup
