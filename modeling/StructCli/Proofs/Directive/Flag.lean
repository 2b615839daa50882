import StructCli.Directive.Value
import StructCli.Proofs.Text.Pieces
import StructCli.Proofs.Text.Strip

/-! # The values of `flag` directives

A value is a long name, after which a comma, white space and a letter may stand. The reader
accepts these values alone, and all of its faults are malformations.
-/

namespace StructCli

namespace FlagSpec

variable {l t s v : Text} {f : FlagSpec}

def LongName (l : Text) : Prop :=
  ∃ c r, l = c :: r ∧ c.isAsciiLetter = true ∧ r ≠ [] ∧ ∀ d ∈ r, isNameChar d = true

theorem isLongName_iff : isLongName l = true ↔ LongName l := by
  constructor
  · intro h
    unfold isLongName at h
    split at h
    · next c d r =>
      obtain ⟨hc, hr⟩ := Bool.and_eq_true_iff.mp h
      exact ⟨c, d :: r, rfl, hc, by simp, List.all_eq_true.mp hr⟩
    · cases h
  · rintro ⟨c, r, rfl, hc, hn, hr⟩
    obtain ⟨d, r, rfl⟩ := List.exists_cons_of_ne_nil hn
    exact Bool.and_eq_true_iff.mpr ⟨hc, List.all_eq_true.mpr hr⟩

theorem LongName.forall_isNameChar (h : LongName l) : ∀ c ∈ l, isNameChar c = true := by
  obtain ⟨c, r, rfl, hc, -, hr⟩ := h
  intro d hd
  rcases List.mem_cons.mp hd with rfl | hd
  · simp [isNameChar, hc]
  · exact hr d hd

theorem isAsciiLetter_iff {c : CodePoint} : c.isAsciiLetter = true ↔
    65 ≤ c.value ∧ c.value ≤ 90 ∨ 97 ≤ c.value ∧ c.value ≤ 122 := by
  simp [CodePoint.isAsciiLetter]

theorem isBlank_of_isNameChar {c : CodePoint} (h : isNameChar c = true) : c.isBlank = false := by
  simp only [isNameChar, Bool.or_eq_true, isAsciiLetter_iff, CodePoint.isAsciiDigit,
    Bool.and_eq_true, decide_eq_true_eq, beq_iff_eq] at h
  simp only [CodePoint.isBlank, Bool.or_eq_false_iff, Bool.and_eq_false_iff,
    decide_eq_false_iff_not, beq_eq_false_iff_ne]
  rcases h with ((h | h) | rfl) | rfl
  · omega
  · omega
  · decide
  · decide

theorem isBlank_of_isAsciiLetter {c : CodePoint} (h : c.isAsciiLetter = true) :
    c.isBlank = false :=
  isBlank_of_isNameChar (by simp [isNameChar, h])

theorem stripStart_eq_singleton_iff {c : CodePoint} : Text.stripStart t = [c] ↔
    c.isBlank = false ∧ ∃ gap, Text.Blank gap ∧ t = gap ++ [c] := by
  constructor
  · intro h
    obtain ⟨gap, hg, ht⟩ := Text.exists_stripStart t
    exact ⟨Text.head_stripStart t c (by rw [h]; rfl), gap, hg, by rw [← h, ← ht]⟩
  · rintro ⟨hc, gap, hg, rfl⟩
    rw [Text.stripStart_append hg]
    exact Text.stripStart_of_head (by simpa using hc)

theorem readShort?_eq_some_iff : readShort? t = some s ↔ t = [] ∧ s = [] ∨
    ∃ gap c, t = .scalar ',' :: (gap ++ [c]) ∧ Text.Blank gap ∧ c.isAsciiLetter = true ∧
      s = [c] := by
  unfold readShort?
  split
  · simp only [true_and, reduceCtorEq, false_and, exists_false, or_false, Option.some.injEq]
    exact eq_comm
  · next r =>
    constructor
    · intro h
      split at h
      · next c hc =>
        obtain ⟨-, gap, hg, rfl⟩ := stripStart_eq_singleton_iff.mp hc
        split at h
        · next hl => exact .inr ⟨gap, c, rfl, hg, hl, (Option.some.inj h).symm⟩
        · cases h
      · cases h
    · rintro (⟨h, -⟩ | ⟨gap, c, h, hg, hl, rfl⟩)
      · cases h
      · obtain rfl := (List.cons.inj h).2
        have := stripStart_eq_singleton_iff.mpr ⟨isBlank_of_isAsciiLetter hl, gap, hg, rfl⟩
        simp [this, hl]
  · next h0 h1 =>
    constructor
    · intro h; cases h
    · rintro (⟨h, -⟩ | ⟨gap, c, h, -⟩)
      · exact absurd h h0
      · exact absurd h (h1 _)

/-- The values of `flag` directives, and the names that they give. -/
inductive Describes : Text → FlagSpec → Prop where

  | long {l : Text} : LongName l → Describes l ⟨l, []⟩

  | short {l gap : Text} {c : CodePoint} : LongName l → Text.Blank gap →
      c.isAsciiLetter = true → Describes (l ++ .scalar ',' :: (gap ++ [c])) ⟨l, [c]⟩

theorem readStripped?_eq_some_iff_of_parts : readStripped? v = some f ↔
    LongName (v.takeWhile isNameChar) ∧ ∃ s, readShort? (v.dropWhile isNameChar) = some s ∧
      (⟨v.takeWhile isNameChar, s⟩ : FlagSpec) = f := by
  constructor
  · intro h
    obtain ⟨u, hu, h⟩ := Option.bind_eq_some_iff.mp h
    obtain ⟨s, hs, h⟩ := Option.bind_eq_some_iff.mp h
    have hl : isLongName (v.takeWhile isNameChar) = true := by
      by_contra hc
      rw [guard, if_neg hc] at hu
      cases hu
    exact ⟨isLongName_iff.mp hl, s, hs, Option.some.inj h⟩
  · rintro ⟨hl, s, hs, rfl⟩
    exact Option.bind_eq_some_iff.mpr
      ⟨(), if_pos (isLongName_iff.mpr hl), Option.bind_eq_some_iff.mpr ⟨s, hs, rfl⟩⟩

theorem readStripped?_of_long {s : Text} (hl : LongName l)
    (ht : ∀ c ∈ t.head?, isNameChar c = false) (hs : readShort? t = some s) :
    readStripped? (l ++ t) = some ⟨l, s⟩ := by
  obtain ⟨htake, hdrop⟩ := Text.takeWhile_dropWhile_append hl.forall_isNameChar ht
  rw [readStripped?_eq_some_iff_of_parts, htake, hdrop]
  exact ⟨hl, s, hs, rfl⟩

/-- The reader accepts the values of `flag` directives and no others. -/
theorem readStripped?_eq_some_iff : readStripped? v = some f ↔ Describes v f := by
  constructor
  · intro h
    have hv : v.takeWhile isNameChar ++ v.dropWhile isNameChar = v :=
      List.takeWhile_append_dropWhile
    obtain ⟨hl, s, hs, rfl⟩ := readStripped?_eq_some_iff_of_parts.mp h
    rcases readShort?_eq_some_iff.mp hs with ⟨ht, rfl⟩ | ⟨gap, c, ht, hg, hc, rfl⟩
    · rw [ht, List.append_nil] at hv
      rw [hv] at hl ⊢
      exact .long hl
    · rw [ht] at hv
      have := Describes.short hl hg hc
      rwa [hv] at this
  · intro h
    cases h with
    | @long l hl =>
      have := readStripped?_of_long hl (t := []) (by simp) rfl
      rwa [List.append_nil] at this
    | short hl hg hc =>
      have hs := readShort?_eq_some_iff.mpr (.inr ⟨_, _, rfl, hg, hc, rfl⟩)
      exact readStripped?_of_long hl (by simpa using by rfl) hs

theorem LongName.ne_nil (h : LongName l) : l ≠ [] := by
  obtain ⟨c, r, rfl, -⟩ := h
  simp

theorem Describes.ne_nil (h : Describes v f) : v ≠ [] := by
  cases h with
  | long hl => exact hl.ne_nil
  | short hl => simp

theorem ofValue_eq_ok_iff {value : Text} : ofValue value = .ok f ↔ Describes value.strip f := by
  rw [← readStripped?_eq_some_iff, ofValue]
  split
  · next h =>
    rw [h, readStripped?_eq_some_iff]
    simp only [reduceCtorEq, false_iff]
    exact fun hd => hd.ne_nil rfl
  · split <;> simp_all

theorem ofValue_ne_numeral {value : Text} {e : Numeral.TooLong} :
    ofValue value ≠ .error (.numeral e) := by
  rw [ofValue]
  split
  · simp
  · split <;> simp

end FlagSpec

end StructCli
