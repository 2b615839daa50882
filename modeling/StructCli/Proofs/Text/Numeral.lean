import Mathlib.Algebra.Group.Nat.Defs
import Mathlib.Data.List.Induction
import StructCli.Text.Numeral
import StructCli.Proofs.Text.Strip

/-! # Numerals and their values

The decimal numeral of a number reads back as that number, up to the limit on digits. The value
of a run of digits is below the power of ten that the run's length gives.
-/

namespace StructCli.Numeral

variable {t ds : Text} {n : Nat}

theorem isUnsigned_iff :
    isUnsigned t = true ↔ t ≠ [] ∧ ∀ c ∈ t, c.isAsciiDigit = true := by
  cases t <;> simp [isUnsigned]

theorem isAsciiDigit_iff {c : CodePoint} : c.isAsciiDigit = true ↔ 48 ≤ c.value ∧ c.value ≤ 57 := by
  simp [CodePoint.isAsciiDigit]

theorem isBlank_of_isAsciiDigit {c : CodePoint} (h : c.isAsciiDigit = true) :
    c.isBlank = false := by
  obtain ⟨hl, hu⟩ := isAsciiDigit_iff.mp h
  simp only [CodePoint.isBlank, Bool.or_eq_false_iff, Bool.and_eq_false_iff, decide_eq_false_iff_not,
    beq_eq_false_iff_ne]
  omega

theorem isAsciiDigit_of_mem_ofNat {c : CodePoint} (h : c ∈ Text.ofNat n) :
    c.isAsciiDigit = true := by
  obtain ⟨d, hd, rfl⟩ := List.mem_map.mp h
  have h := Nat.isDigit_of_mem_toDigits (by decide) (by decide) hd
  simp only [Char.isDigit, Bool.and_eq_true, decide_eq_true_eq, ge_iff_le,
    UInt32.le_iff_toNat_le] at h
  exact isAsciiDigit_iff.mpr h

theorem isUnsigned_ofNat (n : Nat) : isUnsigned (Text.ofNat n) = true :=
  isUnsigned_iff.mpr ⟨by simp [Text.ofNat], fun _ => isAsciiDigit_of_mem_ofNat⟩

theorem value_ofNat (n : Nat) : value (Text.ofNat n) = n := by
  have h := Nat.ofDigitChars_ten_toDigits (n := n)
  rw [Nat.ofDigitChars_eq_foldl] at h
  rwa [value, Text.ofNat, List.foldl_map]

theorem length_ofNat_le_iff {k : Nat} (hk : 0 < k) : (Text.ofNat n).length ≤ k ↔ n < 10 ^ k := by
  rw [Text.ofNat, List.length_map, Nat.length_toDigits_le_iff (by decide) hk]

theorem value_append (a b : Text) : value (a ++ b) = b.foldl (fun n c => 10 * n + digitValue c)
    (value a) := List.foldl_append

theorem value_lt (h : ∀ c ∈ ds, c.isAsciiDigit = true) : value ds < 10 ^ ds.length := by
  induction ds using List.reverseRecOn with
  | nil => simp [value]
  | append_singleton ds c ih =>
    have hi := ih fun d hd => h d (List.mem_append_left _ hd)
    have hc : digitValue c ≤ 9 := by
      have := isAsciiDigit_iff.mp (h c (by simp))
      rw [digitValue]; omega
    rw [value_append, List.length_append, List.length_singleton, Nat.pow_succ]
    simp only [List.foldl_cons, List.foldl_nil]
    omega

theorem read_eq_ok_iff : read ds = .ok n ↔ ds.length ≤ digitLimit ∧ value ds = n := by
  by_cases h : ds.length ≤ digitLimit <;> simp [read, h]

theorem read_eq_error_iff {e : TooLong} :
    read ds = .error e ↔ digitLimit < ds.length ∧ ⟨ds.length⟩ = e := by
  by_cases h : ds.length ≤ digitLimit
  · simp [read, h, Nat.not_lt.mpr h]
  · simp [read, h, Nat.lt_of_not_le h]

theorem signed?_eq_some_iff {negative : Bool} : signed? t = some (negative, ds) ↔
    isUnsigned ds = true ∧ (t = .scalar '-' :: ds ∧ negative = true ∨
      (t = .scalar '+' :: ds ∨ t = ds) ∧ negative = false) := by
  have hsign : ∀ c : CodePoint, c.isAsciiDigit = false → ∀ r, isUnsigned (c :: r) = false := by
    intro c hc r
    simp [isUnsigned, hc]
  unfold signed?
  split
  · next r =>
    have := hsign (.scalar '-') rfl r
    constructor
    · intro h
      split at h <;> simp_all
    · rintro ⟨hu, ⟨h, rfl⟩ | ⟨h | rfl, rfl⟩⟩ <;> simp_all
  · next r =>
    have := hsign (.scalar '+') rfl r
    constructor
    · intro h
      split at h <;> simp_all
    · rintro ⟨hu, ⟨h, rfl⟩ | ⟨h | rfl, rfl⟩⟩ <;> simp_all
  · next hm hp =>
    constructor
    · intro h
      split at h <;> simp_all
    · rintro ⟨hu, ⟨h, rfl⟩ | ⟨h | rfl, rfl⟩⟩ <;> simp_all

theorem infix_of_signed? {negative : Bool} (h : signed? t = some (negative, ds)) : ds <:+: t := by
  rcases (signed?_eq_some_iff.mp h).2 with ⟨rfl, -⟩ | ⟨rfl | rfl, -⟩
  · exact (List.suffix_cons _ _).isInfix
  · exact (List.suffix_cons _ _).isInfix
  · exact List.infix_rfl

/-- No run of digits is longer than a numeral may be. -/
def Bounded (t : Text) : Prop :=
  ∀ ds, ds <:+: t → (∀ c ∈ ds, c.isAsciiDigit = true) → ds.length ≤ digitLimit

theorem Bounded.mono {s : Text} (h : Bounded t) (hs : s <:+: t) : Bounded s :=
  fun ds hd hc => h ds (hd.trans hs) hc

theorem bounded_of_length_le (h : t.length ≤ digitLimit) : Bounded t :=
  fun _ hd _ => hd.length_le.trans h

end StructCli.Numeral
