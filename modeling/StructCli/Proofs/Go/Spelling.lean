import StructCli.Proofs.Go.Lookup

/-! # Written tags

A text is spelled as the body of a literal by escapes, and a tag is written as a sequence of pairs
whose bodies spell the values. Both kinds of literal spell a tag, and its values are looked up as
they were written.
-/

namespace StructCli.Go

/-- A backslash goes before backslashes and quotes, and `n` after one stands for a line feed. -/
def escapeChar (c : CodePoint) : Text :=
  if c = .scalar '\\' then [.scalar '\\', .scalar '\\']
  else if c = .scalar '"' then [.scalar '\\', .scalar '"']
  else if c = .scalar '\n' then [.scalar '\\', .scalar 'n']
  else [c]

def escape (t : Text) : Text := t.flatMap escapeChar

section Escape

variable {c : CodePoint} {t : Text}

theorem escapeChar_of_plain (h : Literal.Plain c) : escapeChar c = [c] := by
  simp [escapeChar, h.1, h.2.1, h.2.2]

theorem escape_cons (c : CodePoint) (t : Text) : escape (c :: t) = escapeChar c ++ escape t :=
  List.flatMap_cons

theorem spells_escape (t : Text) : Literal.Spells (escape t) t := by
  induction t with
  | nil => exact .nil
  | cons c t ih =>
    have hletter : ∀ (a b : Char), (a, b.toNat) ∈ Literal.letters →
        CodePoint.ofNat? b.toNat = some (.scalar b) →
        Literal.Spells (.scalar '\\' :: .scalar a :: escape t) (.scalar b :: t) :=
      fun a b h ho => .escape (.letter h) ho ih
    rw [escape_cons]
    by_cases hb : c = .scalar '\\'
    · subst hb
      exact hletter '\\' '\\' (by decide) rfl
    · by_cases hq : c = .scalar '"'
      · subst hq
        exact hletter '"' '"' (by decide) rfl
      · by_cases hn : c = .scalar '\n'
        · subst hn
          exact hletter 'n' '\n' (by decide) rfl
        · rw [escapeChar_of_plain ⟨hb, hq, hn⟩]
          exact .char ⟨hb, hq, hn⟩ ih

theorem body_escape (t : Text) : StructTag.Body (escape t) := by
  induction t with
  | nil => exact .nil
  | cons c t ih =>
    rw [escape_cons, escapeChar]
    split
    · exact .escape ih
    · next hb =>
      split
      · exact .escape ih
      · next hq =>
        split
        · exact .escape ih
        · exact .char hq hb ih

end Escape

inductive Literal.Spelled (t : Text) : Text → Prop where

  | interpreted : Spelled t (.scalar '"' :: (escape t ++ [.scalar '"']))

  | raw : .scalar '`' ∉ t → .scalar '\r' ∉ t → Spelled t (.scalar '`' :: (t ++ [.scalar '`']))

theorem Literal.Spelled.unquote_eq {t literal : Text} (h : Spelled t literal) :
    unquote literal = .ok t := by
  cases h with
  | interpreted => rw [unquote_interpreted, interpret_eq_ok_iff.mpr (spells_escape t)]
  | raw _ hr =>
    rw [unquote_raw, List.filter_eq_self.mpr]
    intro c hc
    exact decide_eq_true fun he => hr (he ▸ hc)

namespace StructTag

/-- A pair to be written: the spaces before it, its name and its value. -/
structure Entry where
  spaces : Nat
  name : Text
  value : Text

def Entry.text (e : Entry) : Text :=
  List.replicate e.spaces (.scalar ' ') ++ e.name ++ .scalar ':' :: enclose (escape e.value)

def written (entries : List Entry) (spaces : Nat) : Text :=
  (entries.map Entry.text).flatten ++ List.replicate spaces (.scalar ' ')

def valueOf? (entries : List Entry) (key : Text) : Option Text :=
  (entries.find? (·.name = key)).map Entry.value

variable {entries : List Entry} {key : Text} {spaces : Nat}

theorem Entry.pair_text {e : Entry} (h : Name e.name) : Pair e.text e.name (escape e.value) :=
  ⟨h, body_escape e.value, e.spaces, rfl⟩

theorem pairs_spaces (n : Nat) : pairs (List.replicate n (.scalar ' ')) = [] :=
  pairs_of_none (by simp [pair?])

theorem pairs_written (h : ∀ e ∈ entries, Name e.name) :
    pairs (written entries spaces) = entries.map fun e => (e.name, escape e.value) := by
  induction entries with
  | nil => exact pairs_spaces spaces
  | cons e entries ih =>
    have he := Entry.pair_text (h e List.mem_cons_self)
    have hrest := ih fun e he => h e (List.mem_cons_of_mem _ he)
    rw [written, List.map_cons, List.flatten_cons, List.append_assoc, pairs_append he,
      List.map_cons, ← hrest, written]

theorem lookup_map_entries (f : Entry → Text) (entries : List Entry) (key : Text) :
    (entries.map fun e => (e.name, f e)).lookup key = (entries.find? (·.name = key)).map f := by
  induction entries with
  | nil => rfl
  | cons e entries ih =>
    rw [List.map_cons, List.lookup_cons, ih, List.find?_cons]
    by_cases hk : e.name = key
    · simp [hk]
    · simp [hk, beq_false_of_ne (Ne.symm hk)]

theorem unquote_enclose_escape (v : Text) : Literal.unquote (enclose (escape v)) = .ok v :=
  Literal.Spelled.interpreted.unquote_eq

/-- The value found is the one that was written, and that of the first entry with the name. -/
theorem lookup_written (h : ∀ e ∈ entries, Name e.name) :
    lookup (written entries spaces) key = .ok (valueOf? entries key) := by
  rw [lookup, pairs_written h, lookup_map_entries, valueOf?]
  cases entries.find? (·.name = key) with
  | none => rfl
  | some e => simp only [Option.map_some, unquote_enclose_escape]

end StructTag

end StructCli.Go
