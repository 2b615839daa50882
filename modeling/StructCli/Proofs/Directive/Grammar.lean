import StructCli.Proofs.Directive.Limit

/-! # The grammar of `arg` values

Where no run of digits is beyond the limit, the reader of `arg` values accepts a grammar of digits,
signs, brackets and a colon, and calls every other value malformed. A range has no end only where
nothing stands behind its colon.
-/

namespace StructCli

namespace Numeral

/-- Decimal digits, before which a sign may stand, and their value. -/
inductive Integer : Text → Int → Prop where

  | plain {ds : Text} : isUnsigned ds = true → Integer ds (value ds)

  | plus {ds : Text} : isUnsigned ds = true → Integer (.scalar '+' :: ds) (value ds)

  | minus {ds : Text} : isUnsigned ds = true → Integer (.scalar '-' :: ds) (-(value ds : Int))

def Index (t : Text) (n : Nat) : Prop := Integer t.strip n

variable {t ds : Text} {n : Nat} {k : Int}

theorem integer_iff : Integer t k ↔ ∃ negative ds, signed? t = some (negative, ds) ∧
    k = if negative then -(value ds : Int) else value ds := by
  simp only [signed?_eq_some_iff]
  constructor
  · intro h
    cases h with
    | plain hu => exact ⟨false, _, ⟨hu, .inr ⟨.inr rfl, rfl⟩⟩, rfl⟩
    | plus hu => exact ⟨false, _, ⟨hu, .inr ⟨.inl rfl, rfl⟩⟩, rfl⟩
    | minus hu => exact ⟨true, _, ⟨hu, .inl ⟨rfl, rfl⟩⟩, rfl⟩
  · rintro ⟨negative, ds, ⟨hu, ⟨rfl, rfl⟩ | ⟨rfl | rfl, rfl⟩⟩, rfl⟩
    · exact .minus hu
    · exact .plus hu
    · exact .plain hu

theorem denotes_iff_index (h : Bounded t) : Denotes t n ↔ Index t n := by
  rw [Index, integer_iff]
  constructor
  · rintro ⟨negative, ds, hs, -, rfl, hn⟩
    refine ⟨negative, ds, hs, ?_⟩
    cases negative with
    | false => rfl
    | true => simp [hn rfl]
  · rintro ⟨negative, ds, hs, hn⟩
    have hl : ds.length ≤ digitLimit :=
      h ds ((infix_of_signed? hs).trans (Text.strip_infix t))
        (isUnsigned_iff.mp (signed?_eq_some_iff.mp hs).1).2
    cases negative with
    | false => exact ⟨false, ds, hs, hl, (Int.ofNat.inj hn).symm, nofun⟩
    | true =>
      simp only [if_true] at hn
      exact ⟨true, ds, hs, hl, by omega, fun _ => by omega⟩

end Numeral

namespace ArgSpec

open Numeral

variable {raw v t left right : Text} {bound : Bound} {a : ArgSpec} {e : DirectiveError} {n : Nat}

/-- The values of `arg` directives, whatever the length of their numerals. -/
inductive Accepts : Text → ArgSpec → Prop where

  | digits {ds : Text} : isUnsigned ds = true → Accepts ds (position (value ds))

  | bound {b : Text} {n : Nat} : .scalar ':' ∉ b → .scalar ']' ∉ b → Index b n →
      Accepts (brackets b) (position n)

  | rest {left : Text} {n : Nat} : .scalar ':' ∉ left → .scalar ']' ∉ left →
      (left = [] ∧ n = 0 ∨ Index left n) → Accepts (brackets (left ++ [.scalar ':'])) ⟨n, none⟩

  | range {left right : Text} {n m : Nat} : .scalar ':' ∉ left → .scalar ']' ∉ left →
      .scalar ']' ∉ right → (left = [] ∧ n = 0 ∨ Index left n) → Index right m → n < m →
      Accepts (brackets (left ++ .scalar ':' :: right)) ⟨n, some m⟩

theorem bounded_left (h : Bounded (brackets (left ++ .scalar ':' :: right))) : Bounded left :=
  h.mono ((List.prefix_append _ _).isInfix.trans (infix_brackets _))

theorem bounded_right (h : Bounded (brackets (left ++ .scalar ':' :: right))) : Bounded right :=
  h.mono (((List.suffix_cons _ _).trans (List.suffix_append _ _)).isInfix.trans (infix_brackets _))

theorem startsAt_iff (h : Bounded left) : StartsAt left n ↔ left = [] ∧ n = 0 ∨ Index left n :=
  or_congr_right (denotes_iff_index h)

theorem describes_iff_accepts (h : Bounded v) : Describes v a ↔ Accepts v a := by
  constructor
  · intro hd
    cases hd with
    | digits hu => exact .digits hu
    | bound hc hb hn => exact .bound hc hb ((denotes_iff_index (h.mono (infix_brackets _))).mp hn)
    | rest hc hb hs => exact .rest hc hb ((startsAt_iff (bounded_left h)).mp hs)
    | range hc hb hr hs hn hlt =>
      exact .range hc hb hr ((startsAt_iff (bounded_left h)).mp hs)
        ((denotes_iff_index (bounded_right h)).mp hn) hlt
  · intro ha
    cases ha with
    | digits hu => exact .digits hu (h v List.infix_rfl (isUnsigned_iff.mp hu).2)
    | bound hc hb hn => exact .bound hc hb ((denotes_iff_index (h.mono (infix_brackets _))).mpr hn)
    | rest hc hb hs => exact .rest hc hb ((startsAt_iff (bounded_left h)).mpr hs)
    | range hc hb hr hs hn hlt =>
      exact .range hc hb hr ((startsAt_iff (bounded_left h)).mpr hs)
        ((denotes_iff_index (bounded_right h)).mpr hn) hlt

/-- The error names the whole value, or a numeral beyond the limit. -/
def Blames (raw : Text) (e : DirectiveError) : Prop :=
  (∃ reason, e = .malformed .arg raw reason) ∨ ∃ n, e = .numeral n

theorem blames_of_readBound (h : readBound raw bound t = .error e) : Blames raw e := by
  unfold readBound at h
  split at h
  · exact .inl ⟨_, (Except.error.inj h).symm⟩
  · rcases bind_eq_error_iff.mp h with h | ⟨n, -, h⟩
    · exact .inr ⟨_, (readDigits_eq_error_iff.mp h).2⟩
    · split at h
      · exact .inl ⟨_, (Except.error.inj h).symm⟩
      · cases h

theorem blames_of_readRange (h : readRange raw left right = .error e) : Blames raw e := by
  rw [readRange_eq_bind] at h
  rcases bind_eq_error_iff.mp h with h | ⟨n, -, h⟩
  · unfold readStart at h
    split at h
    · cases h
    · exact blames_of_readBound h
  · unfold readStop at h
    split at h
    · cases h
    · rcases bind_eq_error_iff.mp h with h | ⟨m, -, h⟩
      · exact blames_of_readBound h
      · split at h
        · exact .inl ⟨_, (Except.error.inj h).symm⟩
        · cases h

theorem blames_of_readStripped (h : readStripped v = .error e) : Blames v e := by
  rcases readStripped_shape v with hu | ⟨inner, rfl, hi⟩ | ⟨reason, hr⟩
  · rw [readStripped_of_digits hu, map_position_eq_error_iff] at h
    exact .inr ⟨_, (readDigits_eq_error_iff.mp h).2⟩
  · rw [readStripped_of_brackets hi] at h
    rcases inner_shape inner with rfl | ⟨hn, hc⟩ | ⟨left, right, rfl, hl⟩
    · exact .inl ⟨_, (Except.error.inj h).symm⟩
    · rw [readBrackets_of_plain hn hc, map_position_eq_error_iff] at h
      exact blames_of_readBound h
    · rw [readBrackets_of_colon hl] at h
      exact blames_of_readRange h
  · rw [hr] at h
    exact .inl ⟨reason, (Except.error.inj h).symm⟩

theorem malformed_of_error (hb : Bounded v) (h : readStripped v = .error e) :
    ∃ reason, e = .malformed .arg v reason := by
  rcases blames_of_readStripped h with he | ⟨n, rfl⟩
  · exact he
  · obtain ⟨ds, ho, -⟩ := readStripped_eq_numeral_iff.mp h
    exact absurd hb ho.not_bounded

theorem brackets_inj {b b' : Text} : brackets b = brackets b' ↔ b = b' := by
  simp [brackets]

theorem not_index_nil : ¬ Index [] n := by
  rw [← denotes_iff_index (bounded_of_length_le (Nat.zero_le _))]
  exact not_denotes_nil

theorem Accepts.stopIndex_eq_iff (h : Accepts v a) : a.stopIndex = -1 ↔
    ∃ left, v = brackets (left ++ [.scalar ':']) ∧ .scalar ':' ∉ left := by
  cases h with
  | digits hu =>
    have hv : ¬ (value v : Int) = -1 := by omega
    simp only [stopIndex, position, hv, false_iff]
    rintro ⟨left, rfl, -⟩
    cases hu
  | @bound b n hc =>
    have hv : ¬ (n : Int) = -1 := by omega
    simp only [stopIndex, position, hv, brackets_inj, false_iff]
    rintro ⟨left, rfl, -⟩
    simp at hc
  | @rest left n hc => simpa [stopIndex] using ⟨left, rfl, hc⟩
  | @range left right n m hc _ _ _ hm =>
    have hv : ¬ (m : Int) = -1 := by omega
    simp only [stopIndex, hv, brackets_inj, false_iff]
    rintro ⟨left', heq, hc'⟩
    rcases List.eq_nil_or_concat right with rfl | ⟨r, x, rfl⟩
    · exact not_index_nil hm
    · rw [List.concat_eq_append, ← List.cons_append, ← List.append_assoc] at heq
      obtain ⟨rfl, -⟩ := List.append_inj' heq rfl
      simp at hc'

/-- The reader of `arg` values accepts the grammar, and calls everything else malformed. -/
theorem ofValue_reads_grammar (text : Text) (h : Bounded text) :
    (∀ a, ofValue text = .ok a ↔ Accepts text.strip a) ∧
    ((∃ reason, ofValue text = .error (.malformed .arg text.strip reason)) ↔
      ∀ a, ¬ Accepts text.strip a) ∧
    ∀ a, ofValue text = .ok a → (a.stopIndex = -1 ↔
      ∃ left, text.strip = brackets (left ++ [.scalar ':']) ∧ .scalar ':' ∉ left) := by
  have hb : Bounded text.strip := h.mono (Text.strip_infix text)
  have hok : ∀ a, ofValue text = .ok a ↔ Accepts text.strip a := fun a => by
    rw [ofValue_eq_ok_iff, describes_iff_accepts hb]
  refine ⟨hok, ?_, fun a ha => ((hok a).mp ha).stopIndex_eq_iff⟩
  cases hr : ofValue text with
  | ok a => simpa using ⟨a, (hok a).mp hr⟩
  | error e =>
    obtain ⟨reason, rfl⟩ := malformed_of_error hb hr
    have hnone : ∀ a, ¬ Accepts text.strip a := fun a ha => by
      cases hr.symm.trans ((hok a).mpr ha)
    simpa using hnone

/-- Signs and white space at both bounds, and a second colon. -/
theorem ofValue_signed_range :
    ofValue " [ -0 :\t+012]\n" = .ok ⟨0, some 12⟩ ∧ ∀ a, ¬ Accepts "[1::]" a := by
  constructor
  · refine ((ofValue_reads_grammar _ (bounded_of_length_le (by decide))).1 _).mpr ?_
    have hleft : Index " -0 " 0 := @Integer.minus "0" rfl
    have hright : Index "\t+012" 12 := @Integer.plus "012" rfl
    exact .range (by decide) (by decide) (by decide) (.inr hleft) hright (by decide)
  · have hv : ofValue "[1::]" = .error (.malformed .arg "[1::]" (.notInteger .stop ":")) := rfl
    exact (ofValue_reads_grammar _ (bounded_of_length_le (by decide))).2.1.mp ⟨_, hv⟩

end ArgSpec

end StructCli
