import StructCli.Directive.Value
import StructCli.Proofs.Outcome
import StructCli.Proofs.Text.Numeral

/-! # The values of `arg` directives

A value is a run of digits, a bound between brackets, or two bounds with a colon between them.
The reader accepts these values alone, and it meets a numeral beyond the limit only where a bound
is one.
-/

namespace StructCli

namespace Numeral

/-- White space at its ends aside, the text is a numeral for `n`. -/
def Denotes (t : Text) (n : Nat) : Prop :=
  ∃ negative ds, signed? t.strip = some (negative, ds) ∧ ds.length ≤ digitLimit ∧
    value ds = n ∧ (negative = true → n = 0)

/-- White space at its ends aside, the text is a numeral with the digits `ds`, beyond the limit. -/
def Exceeds (t ds : Text) : Prop :=
  (∃ negative, signed? t.strip = some (negative, ds)) ∧ digitLimit < ds.length

end Numeral

namespace ArgSpec

open Numeral

variable {raw t left right inner ds v : Text} {bound : Bound} {n : Nat} {a : ArgSpec}

theorem readDigits_eq_ok_iff : readDigits ds = .ok n ↔ ds.length ≤ digitLimit ∧ value ds = n := by
  rw [← read_eq_ok_iff, readDigits]
  cases read ds <;> simp [Except.mapError]

theorem readDigits_eq_error_iff {e : DirectiveError} : readDigits ds = .error e ↔
    digitLimit < ds.length ∧ e = .numeral ⟨ds.length⟩ := by
  unfold readDigits
  cases h : read ds with
  | ok n =>
    have := (read_eq_ok_iff.mp h).1
    simp [Except.mapError, Nat.not_lt.mpr this]
  | error e' =>
    obtain ⟨hl, rfl⟩ := read_eq_error_iff.mp h
    simp [Except.mapError, hl, eq_comm]

theorem readBound_eq_ok_iff : readBound raw bound t = .ok n ↔ Denotes t n := by
  unfold readBound Denotes
  cases hs : signed? t.strip with
  | none => simp
  | some p =>
    obtain ⟨negative, ds⟩ := p
    simp only [bind_eq_ok_iff, readDigits_eq_ok_iff]
    constructor
    · rintro ⟨m, ⟨hl, hv⟩, hm⟩
      split at hm
      · cases hm
      · next hn =>
        obtain rfl := Except.ok.inj hm
        exact ⟨negative, ds, rfl, hl, hv, fun h => by_contra fun h0 => hn ⟨h, h0⟩⟩
    · rintro ⟨_, _, he, hl, hv, hn⟩
      obtain ⟨rfl, rfl⟩ := Prod.mk.injEq .. ▸ Option.some.inj he
      refine ⟨n, ⟨hl, hv⟩, ?_⟩
      rw [if_neg fun h => h.2 (hn h.1)]
      rfl

theorem readBound_eq_numeral_iff {e : TooLong} : readBound raw bound t = .error (.numeral e) ↔
    ∃ ds, Exceeds t ds ∧ e = ⟨ds.length⟩ := by
  unfold readBound Exceeds
  cases hs : signed? t.strip with
  | none => simp
  | some p =>
    obtain ⟨negative, ds⟩ := p
    simp only [bind_eq_error_iff, readDigits_eq_error_iff, DirectiveError.numeral.injEq]
    constructor
    · rintro (⟨hl, he⟩ | ⟨m, -, hm⟩)
      · exact ⟨ds, ⟨⟨negative, rfl⟩, hl⟩, he⟩
      · split at hm <;> cases hm
    · rintro ⟨_, ⟨⟨_, he⟩, hl⟩, rfl⟩
      obtain ⟨rfl, rfl⟩ := Prod.mk.injEq .. ▸ Option.some.inj he
      exact .inl ⟨hl, rfl⟩

theorem not_denotes_nil : ¬ Denotes [] n := by
  rintro ⟨negative, ds, h, -⟩
  exact absurd h (by simp [Text.strip, Text.stripStart, Text.stripEnd, signed?, isUnsigned])

theorem not_exceeds_nil : ¬ Exceeds [] ds := by
  rintro ⟨⟨negative, h⟩, -⟩
  exact absurd h (by simp [Text.strip, Text.stripStart, Text.stripEnd, signed?, isUnsigned])

def StartsAt (left : Text) (n : Nat) : Prop := left = [] ∧ n = 0 ∨ Denotes left n

def readStart (raw left : Text) : Except DirectiveError Nat :=
  if left = [] then pure 0 else readBound raw .start left

def readStop (raw right : Text) (start : Nat) : Except DirectiveError ArgSpec :=
  if right = [] then pure ⟨start, none⟩ else do
    let stop ← readBound raw .stop right
    if stop ≤ start then .error (.malformed .arg raw (.stopNotAfterStart stop start))
    else return ⟨start, some stop⟩

theorem readRange_eq_bind : readRange raw left right = readStart raw left >>= readStop raw right := by
  rw [readRange, readStart]
  split <;> rfl

theorem readStart_eq_ok_iff : readStart raw left = .ok n ↔ StartsAt left n := by
  by_cases h : left = []
  · subst h
    simp [readStart, StartsAt, not_denotes_nil, pure, Except.pure, eq_comm]
  · simp [readStart, StartsAt, h, readBound_eq_ok_iff]

theorem readStart_eq_numeral_iff {e : TooLong} :
    readStart raw left = .error (.numeral e) ↔ ∃ ds, Exceeds left ds ∧ e = ⟨ds.length⟩ := by
  by_cases h : left = []
  · subst h
    simp [readStart, not_exceeds_nil, pure, Except.pure]
  · simp [readStart, h, readBound_eq_numeral_iff]

theorem readStop_eq_ok_iff : readStop raw right n = .ok a ↔
    right = [] ∧ a = ⟨n, none⟩ ∨ ∃ m, Denotes right m ∧ n < m ∧ a = ⟨n, some m⟩ := by
  by_cases h : right = []
  · subst h
    simp [readStop, not_denotes_nil, pure, Except.pure, eq_comm]
  · simp only [readStop, h, if_false, bind_eq_ok_iff, readBound_eq_ok_iff, false_and, false_or]
    refine exists_congr fun m => and_congr_right fun _ => ?_
    by_cases hm : m ≤ n
    · simp [hm, Nat.not_lt.mpr hm]
    · simp [hm, Nat.lt_of_not_le hm, pure, Except.pure, eq_comm]

theorem readStop_eq_numeral_iff {e : TooLong} : readStop raw right n = .error (.numeral e) ↔
    ∃ ds, Exceeds right ds ∧ e = ⟨ds.length⟩ := by
  by_cases h : right = []
  · subst h
    simp [readStop, not_exceeds_nil, pure, Except.pure]
  · simp only [readStop, h, if_false, bind_eq_error_iff, readBound_eq_numeral_iff]
    apply or_iff_left
    rintro ⟨m, -, hm⟩
    split at hm <;> cases hm

theorem readBrackets_of_plain (hn : inner ≠ []) (hc : .scalar ':' ∉ inner) :
    readBrackets raw inner = position <$> readBound raw .start inner := by
  have hd : inner.dropWhile (· ≠ .scalar ':') = [] :=
    List.dropWhile_eq_nil_iff.mpr fun c h => by simpa using ne_of_mem_of_not_mem h hc
  simp only [readBrackets, hn, if_false, hd]
  cases readBound raw .start inner <;> rfl

theorem readBrackets_of_colon (hc : .scalar ':' ∉ left) :
    readBrackets raw (left ++ .scalar ':' :: right) = readRange raw left right := by
  have hp : ∀ c ∈ left, decide (c ≠ .scalar ':') = true := fun c h => by
    simpa using ne_of_mem_of_not_mem h hc
  have hd : (left ++ .scalar ':' :: right).dropWhile (· ≠ .scalar ':') = .scalar ':' :: right := by
    rw [List.dropWhile_append_of_pos hp]; rfl
  have ht : (left ++ .scalar ':' :: right).takeWhile (· ≠ .scalar ':') = left := by
    rw [List.takeWhile_append_of_pos hp]; simp
  simp only [readBrackets, hd, ht]
  simp

theorem readStripped_of_digits (h : isUnsigned v = true) :
    readStripped v = position <$> readDigits v := by
  simp only [readStripped, (isUnsigned_iff.mp h).1, h, if_false, if_true]
  cases readDigits v <;> rfl

def brackets (inner : Text) : Text := .scalar '[' :: (inner ++ [.scalar ']'])

theorem bracketed?_eq_some_iff :
    bracketed? v = some inner ↔ v = brackets inner ∧ .scalar ']' ∉ inner := by
  constructor
  · intro h
    unfold bracketed? at h
    split at h
    · next r =>
      split at h
      · next hr =>
        obtain rfl := Option.some.inj h
        refine ⟨?_, hr.2⟩
        rw [brackets, List.dropLast_append_getLast? _ hr.1]
      · cases h
    · cases h
  · rintro ⟨rfl, h⟩
    simp [brackets, bracketed?, h]

theorem readStripped_of_brackets (h : .scalar ']' ∉ inner) :
    readStripped (brackets inner) = readBrackets (brackets inner) inner := by
  have hb := bracketed?_eq_some_iff.mpr ⟨rfl, h⟩
  have hu : isUnsigned (brackets inner) = false := rfl
  have hn : brackets inner ≠ [] := by simp [brackets]
  simp only [readStripped, hb, hu, hn, if_false, Bool.false_eq_true]

theorem readStripped_shape (v : Text) : isUnsigned v = true ∨
    (∃ inner, v = brackets inner ∧ .scalar ']' ∉ inner) ∨
      ∃ reason, readStripped v = .error (.malformed .arg v reason) := by
  by_cases hu : isUnsigned v = true
  · exact .inl hu
  · cases hb : bracketed? v with
    | some inner => exact .inr (.inl ⟨inner, bracketed?_eq_some_iff.mp hb⟩)
    | none =>
      by_cases hn : v = []
      · exact .inr (.inr ⟨.empty, by simp only [readStripped, hn, if_true]⟩)
      · exact .inr (.inr ⟨.argShape, by
        simp only [readStripped, hn, hu, hb, if_false, Bool.false_eq_true]⟩)

theorem inner_shape (inner : Text) : inner = [] ∨ (inner ≠ [] ∧ .scalar ':' ∉ inner) ∨
    ∃ left right, inner = left ++ .scalar ':' :: right ∧ .scalar ':' ∉ left := by
  by_cases hc : .scalar ':' ∈ inner
  · obtain ⟨left, right, h, hl⟩ := List.eq_append_cons_of_mem hc
    exact .inr (.inr ⟨left, right, h, hl⟩)
  · by_cases hn : inner = []
    · exact .inl hn
    · exact .inr (.inl ⟨hn, hc⟩)

/-- The values of `arg` directives, and the arguments that they describe. -/
inductive Describes : Text → ArgSpec → Prop where

  | digits {ds : Text} : isUnsigned ds = true → ds.length ≤ digitLimit →
      Describes ds (position (value ds))

  | bound {t : Text} {n : Nat} : .scalar ':' ∉ t → .scalar ']' ∉ t → Denotes t n →
      Describes (brackets t) (position n)

  | rest {left : Text} {n : Nat} : .scalar ':' ∉ left → .scalar ']' ∉ left → StartsAt left n →
      Describes (brackets (left ++ [.scalar ':'])) ⟨n, none⟩

  | range {left right : Text} {n m : Nat} : .scalar ':' ∉ left → .scalar ']' ∉ left →
      .scalar ']' ∉ right → StartsAt left n → Denotes right m → n < m →
      Describes (brackets (left ++ .scalar ':' :: right)) ⟨n, some m⟩

/-- The values of `arg` directives in which a numeral beyond the limit is met, and its digits. -/
inductive Overruns : Text → Text → Prop where

  | digits {ds : Text} : isUnsigned ds = true → digitLimit < ds.length → Overruns ds ds

  | bound {t ds : Text} : .scalar ':' ∉ t → .scalar ']' ∉ t → Exceeds t ds →
      Overruns (brackets t) ds

  | start {left right ds : Text} : .scalar ':' ∉ left → .scalar ']' ∉ left →
      .scalar ']' ∉ right → Exceeds left ds →
      Overruns (brackets (left ++ .scalar ':' :: right)) ds

  | stop {left right ds : Text} {n : Nat} : .scalar ':' ∉ left → .scalar ']' ∉ left →
      .scalar ']' ∉ right → StartsAt left n → Exceeds right ds →
      Overruns (brackets (left ++ .scalar ':' :: right)) ds

theorem not_mem_close (hl : .scalar ']' ∉ left) (hr : .scalar ']' ∉ right) :
    .scalar ']' ∉ left ++ .scalar ':' :: right := by
  simp [hl, hr]

theorem map_position_eq_ok_iff {r : Except DirectiveError Nat} :
    position <$> r = .ok a ↔ ∃ n, r = .ok n ∧ a = position n := by
  cases r <;> simp [Functor.map, Except.map, eq_comm]

theorem map_position_eq_error_iff {r : Except DirectiveError Nat} {e : DirectiveError} :
    position <$> r = .error e ↔ r = .error e := by
  cases r <;> simp [Functor.map, Except.map]

/-- The reader accepts the values of `arg` directives and no others. -/
theorem readStripped_eq_ok_iff : readStripped v = .ok a ↔ Describes v a := by
  constructor
  · intro h
    rcases readStripped_shape v with hu | ⟨inner, rfl, hi⟩ | ⟨reason, hr⟩
    · rw [readStripped_of_digits hu, map_position_eq_ok_iff] at h
      obtain ⟨n, hn, rfl⟩ := h
      obtain ⟨hl, rfl⟩ := readDigits_eq_ok_iff.mp hn
      exact .digits hu hl
    · rw [readStripped_of_brackets hi] at h
      rcases inner_shape inner with rfl | ⟨hn, hc⟩ | ⟨left, right, rfl, hl⟩
      · cases h
      · rw [readBrackets_of_plain hn hc, map_position_eq_ok_iff] at h
        obtain ⟨n, hd, rfl⟩ := h
        exact .bound hc hi (readBound_eq_ok_iff.mp hd)
      · rw [readBrackets_of_colon hl, readRange_eq_bind, bind_eq_ok_iff] at h
        obtain ⟨n, hs, he⟩ := h
        have hi' : .scalar ']' ∉ left ∧ .scalar ']' ∉ right := by simpa using hi
        rcases readStop_eq_ok_iff.mp he with ⟨rfl, rfl⟩ | ⟨m, hm, hlt, rfl⟩
        · exact .rest hl hi'.1 (readStart_eq_ok_iff.mp hs)
        · exact .range hl hi'.1 hi'.2 (readStart_eq_ok_iff.mp hs) hm hlt
    · rw [hr] at h; cases h
  · intro h
    cases h with
    | digits hu hl =>
      rw [readStripped_of_digits hu, readDigits_eq_ok_iff.mpr ⟨hl, rfl⟩]; rfl
    | @bound t n hc hb hd =>
      have hn : t ≠ [] := fun h => not_denotes_nil (h ▸ hd)
      rw [readStripped_of_brackets hb, readBrackets_of_plain hn hc, readBound_eq_ok_iff.mpr hd]
      rfl
    | rest hl hb hs =>
      rw [readStripped_of_brackets (not_mem_close hb (by simp)), readBrackets_of_colon hl,
        readRange_eq_bind, bind_eq_ok_iff]
      exact ⟨_, readStart_eq_ok_iff.mpr hs, rfl⟩
    | range hl hb hr hs hd hlt =>
      rw [readStripped_of_brackets (not_mem_close hb hr), readBrackets_of_colon hl,
        readRange_eq_bind, bind_eq_ok_iff]
      exact ⟨_, readStart_eq_ok_iff.mpr hs, readStop_eq_ok_iff.mpr (.inr ⟨_, hd, hlt, rfl⟩)⟩

theorem readStripped_eq_numeral_iff {e : TooLong} :
    readStripped v = .error (.numeral e) ↔ ∃ ds, Overruns v ds ∧ e = ⟨ds.length⟩ := by
  constructor
  · intro h
    rcases readStripped_shape v with hu | ⟨inner, rfl, hi⟩ | ⟨reason, hr⟩
    · rw [readStripped_of_digits hu, map_position_eq_error_iff, readDigits_eq_error_iff] at h
      exact ⟨v, .digits hu h.1, DirectiveError.numeral.inj h.2⟩
    · rw [readStripped_of_brackets hi] at h
      rcases inner_shape inner with rfl | ⟨hn, hc⟩ | ⟨left, right, rfl, hl⟩
      · cases h
      · rw [readBrackets_of_plain hn hc, map_position_eq_error_iff] at h
        obtain ⟨ds, hd, rfl⟩ := readBound_eq_numeral_iff.mp h
        exact ⟨ds, .bound hc hi hd, rfl⟩
      · rw [readBrackets_of_colon hl, readRange_eq_bind, bind_eq_error_iff] at h
        have hi' : .scalar ']' ∉ left ∧ .scalar ']' ∉ right := by simpa using hi
        rcases h with h | ⟨n, hs, h⟩
        · obtain ⟨ds, hd, rfl⟩ := readStart_eq_numeral_iff.mp h
          exact ⟨ds, .start hl hi'.1 hi'.2 hd, rfl⟩
        · obtain ⟨ds, hd, rfl⟩ := readStop_eq_numeral_iff.mp h
          exact ⟨ds, .stop hl hi'.1 hi'.2 (readStart_eq_ok_iff.mp hs) hd, rfl⟩
    · rw [hr] at h; cases h
  · rintro ⟨ds, h, rfl⟩
    cases h with
    | digits hu hl =>
      rw [readStripped_of_digits hu, map_position_eq_error_iff]
      exact readDigits_eq_error_iff.mpr ⟨hl, rfl⟩
    | @bound t ds hc hb hd =>
      have hn : t ≠ [] := fun h => not_exceeds_nil (h ▸ hd)
      rw [readStripped_of_brackets hb, readBrackets_of_plain hn hc, map_position_eq_error_iff]
      exact readBound_eq_numeral_iff.mpr ⟨ds, hd, rfl⟩
    | start hl hb hr hd =>
      rw [readStripped_of_brackets (not_mem_close hb hr), readBrackets_of_colon hl,
        readRange_eq_bind, bind_eq_error_iff]
      exact .inl (readStart_eq_numeral_iff.mpr ⟨ds, hd, rfl⟩)
    | stop hl hb hr hs hd =>
      rw [readStripped_of_brackets (not_mem_close hb hr), readBrackets_of_colon hl,
        readRange_eq_bind, bind_eq_error_iff]
      exact .inr ⟨_, readStart_eq_ok_iff.mpr hs, readStop_eq_numeral_iff.mpr ⟨ds, hd, rfl⟩⟩

theorem ofValue_eq_ok_iff {value : Text} : ofValue value = .ok a ↔ Describes value.strip a :=
  readStripped_eq_ok_iff

theorem ofValue_eq_numeral_iff {value : Text} {e : TooLong} : ofValue value = .error (.numeral e) ↔
    ∃ ds, Overruns value.strip ds ∧ e = ⟨ds.length⟩ :=
  readStripped_eq_numeral_iff

theorem Describes.ne_nil (h : Describes v a) : v ≠ [] := by
  cases h with
  | digits hu => exact (isUnsigned_iff.mp hu).1
  | _ => simp [brackets]

end ArgSpec

end StructCli
