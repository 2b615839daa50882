import StructCli.Proofs.Go.Units
import StructCli.Proofs.Text.Utf8

/-! # The bytes of a literal

In the language a string is a sequence of bytes. A character of a literal and an escape for a code
point stand for the bytes of their UTF-8 encoding, and an escape of two hexadecimal or three octal
digits stands for a single byte. Unquoting takes the number of such a byte for a code point, so
that it gives the text that the bytes encode exactly if all bytes written by escapes are ASCII.
-/

namespace StructCli.Go.Literal

inductive Content where
  | rune (c : Char)
  | byte (b : UInt8)
  deriving DecidableEq, Repr

namespace Content

def bytes : Content → List UInt8
  | rune c => String.utf8EncodeChar c
  | byte b => [b]

def char : Content → Char
  | rune c => c
  | byte b => Char.ofNat b.toNat

def Textual (x : Content) : Prop := ∀ b, x = byte b → b < 0x80

end Content

/-- The units of interpreted literals in the language, and what they stand for. -/
inductive SourceUnit : Text → Content → Prop where

  | plain {c : Char} : Plain (.scalar c) → SourceUnit [.scalar c] (.rune c)

  | letter {a c : Char} : (a, c.toNat) ∈ letters →
      SourceUnit [.scalar '\\', .scalar a] (.rune c)

  | point {a c : Char} {ds : Text} : (a, ds.length) ∈ [('u', 4), ('U', 8)] →
      hexNumberOf? ds = some c.toNat → SourceUnit (.scalar '\\' :: .scalar a :: ds) (.rune c)

  | hex {ds : Text} {b : UInt8} : ds.length = 2 → hexNumberOf? ds = some b.toNat →
      SourceUnit (.scalar '\\' :: .scalar 'x' :: ds) (.byte b)

  | octal {p q r : CodePoint} {x y z : Nat} {b : UInt8} : octalValue? p = some x →
      octalValue? q = some y → octalValue? r = some z → 64 * x + 8 * y + z = b.toNat →
      SourceUnit [.scalar '\\', p, q, r] (.byte b)

def SourceUnits (us : List (Text × Content)) : Prop := ∀ u ∈ us, SourceUnit u.1 u.2

def sourceOf (us : List (Text × Content)) : Text := us.flatMap Prod.fst

def bytesOf (us : List (Text × Content)) : List UInt8 := us.flatMap fun u => u.2.bytes

def charsOf (us : List (Text × Content)) : List Char := us.map fun u => u.2.char

variable {body w : Text} {c : Char} {x : Content} {us : List (Text × Content)}
  {vs : List (Text × CodePoint)} {n : Nat}

theorem toNat_char_byte (b : UInt8) : (Content.byte b).char.toNat = b.toNat := by
  have hlt := b.toNat_lt
  have h : CodePoint.ofNat? b.toNat = some (.scalar (Content.byte b).char) := by
    rw [CodePoint.ofNat?, dif_neg (by omega), if_pos (by omega)]
    rfl
  exact CodePoint.value_of_ofNat? h

theorem SourceUnit.bodyUnit (h : SourceUnit w x) : BodyUnit w (.scalar x.char) := by
  cases h with
  | plain hp => exact .plain hp
  | letter hl => exact .escape (.letter hl)
  | @point a c ds ha hd =>
    have hw : (a, ds.length) ∈ [('x', 2), ('u', 4), ('U', 8)] := List.mem_cons_of_mem _ ha
    exact .escape (.hex hw hd)
  | @hex ds b hl hd =>
    rw [← toNat_char_byte] at hd
    exact .escape (.hex (by simp [hl]) hd)
  | @octal p q r x y z b hp hq hr hn =>
    have hlt := b.toNat_lt
    have he : Escape [p, q, r] (64 * x + 8 * y + z) := .octal hp hq hr (by omega)
    rw [hn, ← toNat_char_byte] at he
    exact .escape he

theorem exists_byte_of_lt (h : c.toNat < 256) (hu : ∀ b : UInt8, b.toNat = c.toNat →
    SourceUnit w (.byte b)) : ∃ x, SourceUnit w x ∧ x.char = c := by
  have hb : (UInt8.ofNat c.toNat).toNat = c.toNat := by
    rw [UInt8.toNat_ofNat']
    omega
  refine ⟨.byte (UInt8.ofNat c.toNat), hu _ hb, ?_⟩
  rw [Content.char, hb, Char.ofNat_toNat]

theorem BodyUnit.exists_source (h : BodyUnit w (.scalar c)) : ∃ x, SourceUnit w x ∧ x.char = c := by
  cases h with
  | plain hp => exact ⟨.rune c, .plain hp, rfl⟩
  | @escape e _ he =>
    change Escape e c.toNat at he
    generalize hn : c.toNat = n at he
    cases he with
    | letter hl => exact ⟨.rune c, .letter (hn ▸ hl), rfl⟩
    | @hex a ds _ ha hd =>
      rcases List.mem_cons.mp ha with hx | ha
      · obtain ⟨rfl, hl⟩ := Prod.mk.inj hx
        have hlt := hexNumberOf?_lt hd
        rw [hl] at hlt
        refine exists_byte_of_lt (by omega) fun b hb => .hex hl ?_
        rw [hd, hb, hn]
      · exact ⟨.rune c, .point ha (hn ▸ hd), rfl⟩
    | octal hp hq hr h3 =>
      have hy := octalValue?_eq_some_iff.mp hq
      have hz := octalValue?_eq_some_iff.mp hr
      refine exists_byte_of_lt (by omega) fun b hb => .octal hp hq hr ?_
      rw [hb, hn]

/-- What the language accepts is cut into the same units, and they stand for the same characters
but for bytes. -/
theorem SourceUnits.units (h : SourceUnits us) :
    Units (us.map fun u => (u.1, .scalar u.2.char)) := by
  intro v hv
  obtain ⟨u, hu, rfl⟩ := List.mem_map.mp hv
  exact (h u hu).bodyUnit

theorem SourceUnits.unquote_eq (h : SourceUnits us) :
    unquote (.scalar '"' :: (sourceOf us ++ [.scalar '"'])) =
      .ok ((charsOf us).map CodePoint.scalar) := by
  refine unquote_eq_ok_iff_units.mpr ⟨_, h.units, ?_, ?_⟩
  · simp [bodyOf, sourceOf, List.flatMap_map]
  · simp [valueOf, charsOf]

theorem Units.exists_source (h : Units vs) (hs : ∀ half, .surrogate half ∉ valueOf vs) :
    ∃ us, SourceUnits us ∧ sourceOf us = bodyOf vs := by
  induction vs with
  | nil => exact ⟨[], fun _ h => absurd h List.not_mem_nil, rfl⟩
  | cons v vs ih =>
    obtain ⟨w, c⟩ := v
    obtain ⟨hw, hvs⟩ := units_cons.mp h
    cases c with
    | surrogate half => exact absurd List.mem_cons_self (hs half)
    | scalar c =>
      obtain ⟨x, hx, -⟩ := BodyUnit.exists_source hw
      obtain ⟨us, hus, he⟩ := ih hvs fun half hm => hs half (List.mem_cons_of_mem _ hm)
      refine ⟨(w, x) :: us, List.forall_mem_cons.mpr ⟨hx, hus⟩, ?_⟩
      exact congrArg (w ++ ·) he

namespace Content

theorem textual_rune (c : Char) : (rune c).Textual := fun _ h => nomatch h

theorem bytes_of_textual (h : x.Textual) : x.bytes = String.utf8EncodeChar x.char := by
  cases x with
  | rune c => rfl
  | byte b =>
    have hb : b.toNat ≤ 127 := Nat.lt_succ_iff.mp (UInt8.lt_iff_toNat_lt.mp (h b rfl))
    have hv : (byte b).char.val.toNat = b.toNat := toNat_char_byte b
    rw [String.utf8EncodeChar, hv, if_pos hb]
    simp [bytes]

theorem length_bytes_lt (h : ¬ x.Textual) :
    x.bytes.length < (String.utf8EncodeChar x.char).length := by
  cases x with
  | rune c => exact absurd (textual_rune c) h
  | byte b =>
    have hb : ¬ b < 0x80 := fun hb => h fun _ he => byte.inj he ▸ hb
    have hv : (byte b).char.val.toNat = b.toNat := toNat_char_byte b
    have hone : (byte b).char.utf8Size ≠ 1 := by
      rw [ne_eq, Char.utf8Size_eq_one_iff, UInt32.le_iff_toNat_le, hv]
      rw [UInt8.lt_iff_toNat_lt] at hb
      exact fun hle => hb (Nat.lt_succ_of_le hle)
    have hpos := (byte b).char.utf8Size_pos
    rw [String.length_utf8EncodeChar]
    change 1 < _
    omega

theorem length_bytes_le (x : Content) :
    x.bytes.length ≤ (String.utf8EncodeChar x.char).length := by
  by_cases h : x.Textual
  · rw [bytes_of_textual h]
  · exact Nat.le_of_lt (length_bytes_lt h)

end Content

theorem length_bytesOf_le (us : List (Text × Content)) :
    (bytesOf us).length ≤ ((charsOf us).flatMap String.utf8EncodeChar).length := by
  induction us with
  | nil => exact Nat.le_refl _
  | cons u us ih =>
    have hu := u.2.length_bytes_le
    simp only [bytesOf, charsOf, List.flatMap_cons, List.map_cons, List.length_append] at ih ⊢
    omega

/-- A byte outside of ASCII is shorter than the encoding of the character with its number, so that
the lengths tell whether there is one. -/
theorem bytesOf_eq_encode_iff :
    bytesOf us = (charsOf us).flatMap String.utf8EncodeChar ↔ ∀ u ∈ us, u.2.Textual := by
  induction us with
  | nil => simp [bytesOf, charsOf]
  | cons u us ih =>
    rw [List.forall_mem_cons, ← ih]
    simp only [bytesOf, charsOf, List.flatMap_cons, List.map_cons]
    constructor
    · intro h
      have hlen := congrArg List.length h
      have hle := length_bytesOf_le us
      have hu : u.2.Textual := by
        by_contra hc
        have hlt := Content.length_bytes_lt hc
        simp only [bytesOf, charsOf, List.length_append] at hlen hle
        omega
      rw [Content.bytes_of_textual hu] at h
      exact ⟨hu, List.append_cancel_left h⟩
    · rintro ⟨hu, h⟩
      rw [Content.bytes_of_textual hu, h]

/-- The text that the bytes encode has the characters of the units one by one exactly if the bytes
written by escapes are ASCII. -/
theorem charsOf_eq_iff {text : List Char} (h : bytesOf us = text.flatMap String.utf8EncodeChar) :
    charsOf us = text ↔ ∀ u ∈ us, u.2.Textual := by
  rw [← bytesOf_eq_encode_iff]
  constructor
  · rintro rfl
    exact h
  · intro hc
    exact Utf8.encode_inj (hc.symm.trans h)

theorem map_scalar_inj {cs ds : List Char} :
    cs.map CodePoint.scalar = ds.map CodePoint.scalar ↔ cs = ds :=
  List.map_inj_right fun _ _ h => CodePoint.scalar.inj h

theorem unquote_eq_text_iff {text : String} (hu : SourceUnits us)
    (hb : bytesOf us = text.toUTF8.data.toList) :
    unquote (.scalar '"' :: (sourceOf us ++ [.scalar '"'])) = .ok (Text.ofString text) ↔
      ∀ u ∈ us, u.2.Textual := by
  rw [Utf8.toList_toUTF8] at hb
  rw [hu.unquote_eq, ← charsOf_eq_iff hb, Text.ofString, Except.ok.injEq, map_scalar_inj]

/-- A body that the language rejects is read only if an escape or a character of it is half of a
surrogate pair. -/
theorem units_of_rejected (h : ∀ us, SourceUnits us → sourceOf us ≠ body) :
    (∀ vs, Units vs → bodyOf vs ≠ body) ↔
      ¬ ∃ vs half, Units vs ∧ bodyOf vs = body ∧ .surrogate half ∈ valueOf vs := by
  constructor
  · rintro hn ⟨vs, half, hv, hb, -⟩
    exact hn vs hv hb
  · intro hn vs hv hb
    have hs : ∀ half, .surrogate half ∉ valueOf vs := fun half hm => hn ⟨vs, half, hv, hb, hm⟩
    obtain ⟨us, hu, he⟩ := hv.exists_source hs
    exact h us hu (he.trans hb)

/-- A literal of the language is read unit by unit, which gives the text of its bytes exactly if
the bytes written by escapes are ASCII. What the language rejects is rejected, other than halves of
surrogate pairs, and in the usual way, other than numbers of more than 31 bits. -/
theorem unquote_gives_text_iff_textual (body : Text) :
    (∀ us, SourceUnits us → sourceOf us = body →
      unquote (.scalar '"' :: (body ++ [.scalar '"'])) =
        .ok ((charsOf us).map CodePoint.scalar) ∧
      ∀ text : String, bytesOf us = text.toUTF8.data.toList →
        (unquote (.scalar '"' :: (body ++ [.scalar '"'])) = .ok (Text.ofString text) ↔
          ∀ u ∈ us, ∀ b, u.2 = .byte b → b < 0x80)) ∧
    ((∀ us, SourceUnits us → sourceOf us ≠ body) →
      ((∃ e, unquote (.scalar '"' :: (body ++ [.scalar '"'])) = .error e ∧ e ≠ .overflow) ↔
        ¬ OverflowsFirst body ∧
          ¬ ∃ vs half, Units vs ∧ bodyOf vs = body ∧ .surrogate half ∈ valueOf vs)) := by
  constructor
  · rintro us hu rfl
    exact ⟨hu.unquote_eq, fun text hb => unquote_eq_text_iff hu hb⟩
  · intro h
    rw [unquote_eq_other_error_iff, units_of_rejected h, and_comm]

namespace TwoBytes

/-- One letter, its two bytes written by escapes. -/
def units : List (Text × Content) := [("\\xc3", .byte 0xC3), ("\\xa9", .byte 0xA9)]

theorem sourceUnits : SourceUnits units := by
  have hfirst : SourceUnit "\\xc3" (.byte 0xC3) := @SourceUnit.hex "c3" 0xC3 rfl rfl
  have hsecond : SourceUnit "\\xa9" (.byte 0xA9) := @SourceUnit.hex "a9" 0xA9 rfl rfl
  intro u hu
  rcases List.mem_cons.mp hu with rfl | hu
  · exact hfirst
  · obtain rfl := List.mem_singleton.mp hu
    exact hsecond

theorem bytesOf_units : bytesOf units = "é".toUTF8.data.toList := by decide

theorem not_textual : ¬ ∀ u ∈ units, u.2.Textual := by
  intro h
  exact absurd (h _ List.mem_cons_self 0xC3 rfl) (by decide)

/-- The escapes are read as two letters, and an octal number of more than a byte is refused. -/
theorem read_as_two_letters :
    unquote "\"\\xc3\\xa9\"" = .ok "Ã©" ∧ unquote "\"\\xc3\\xa9\"" ≠ .ok "é" ∧
      ∃ e, unquote "\"\\400\"" = .error e ∧ e ≠ .overflow := by
  obtain ⟨hread, htext⟩ := (unquote_gives_text_iff_textual "\\xc3\\xa9").1 units sourceUnits rfl
  refine ⟨hread, fun h => not_textual ((htext "é" bytesOf_units).mp h), ?_⟩
  have hrefused : unquote "\"\\400\"" = .error (.invalidEscape "4" "\"\\400\"") := rfl
  refine ((unquote_gives_text_iff_textual "\\400").2 ?_).mpr ⟨?_, ?_⟩
  · intro us hu he
    cases hrefused.symm.trans (he ▸ hu.unquote_eq)
  · intro ho
    cases hrefused.symm.trans (unquote_eq_overflow_iff_first.mpr ho)
  · rintro ⟨vs, half, hv, hb, -⟩
    cases hrefused.symm.trans (unquote_eq_ok_iff_units.mpr ⟨vs, hv, hb, rfl⟩)

theorem not_always_text :
    ¬ ((∀ us (text : String), SourceUnits us → bytesOf us = text.toUTF8.data.toList →
        unquote (.scalar '"' :: (sourceOf us ++ [.scalar '"'])) = .ok (Text.ofString text)) ∧
      ∀ body, (∀ us, SourceUnits us → sourceOf us ≠ body) →
        ∃ e, unquote (.scalar '"' :: (body ++ [.scalar '"'])) = .error e ∧ e ≠ .overflow) := by
  rintro ⟨h, -⟩
  have hread := h units "é" sourceUnits bytesOf_units
  exact not_textual ((unquote_eq_text_iff sourceUnits bytesOf_units).mp hread)

end TwoBytes

end StructCli.Go.Literal
