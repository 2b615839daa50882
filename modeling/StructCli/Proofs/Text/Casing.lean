import StructCli.Proofs.Text.CodePoint
import StructCli.Text.Casing

/-! # Letter case

The classes of the characters of ASCII, and their lower case: each is lowered by itself, whatever
stands around it, capitals become small letters and all others are left as they are. No text
vanishes in lower case.
-/

namespace StructCli

namespace CodePoint

variable {c d : CodePoint}

theorem isAlphanumeric_iff_of_ascii (h : c.value < 128) : c.isAlphanumeric = true ↔
    c.isAsciiLetter = true ∨ c.isAsciiDigit = true := by
  simp [isAlphanumeric, h]

theorem isDigit_of_ascii (h : c.value < 128) : c.isDigit = c.isAsciiDigit := by
  simp [isDigit, h]

theorem classes_of_small (h : 97 ≤ c.value ∧ c.value ≤ 122) : c.value < 128 ∧
    c.isAlphanumeric = true ∧ c.isUpper = false ∧ c.isDigit = false := by
  have hlt : c.value < 128 := by omega
  have hupper : ¬ c.value ≤ 90 := by omega
  have hdigit : ¬ c.value ≤ 57 := by omega
  simp [isAlphanumeric, isUpper, isDigit, isAsciiLetter, isAsciiDigit, hlt, h, hupper, hdigit]

theorem classes_of_digit (h : 48 ≤ c.value ∧ c.value ≤ 57) : c.value < 128 ∧
    c.isAlphanumeric = true ∧ c.isUpper = false ∧ c.isDigit = true := by
  have hlt : c.value < 128 := by omega
  have hupper : ¬ 65 ≤ c.value := by omega
  simp [isAlphanumeric, isUpper, isDigit, isAsciiLetter, isAsciiDigit, hlt, h, hupper]

theorem lower_ne_nil (c : CodePoint) : c.lower ≠ [] := by
  have hseq : ∀ s ∈ Property.toLowerSequences, s.2.filterMap ofNat? ≠ [] := by decide
  unfold lower
  split
  · exact List.cons_ne_nil _ _
  · unfold CaseMap.image
    split
    · next ns hl =>
      obtain ⟨before, after, he, -⟩ := List.lookup_eq_some_iff.mp hl
      exact hseq (c.value, ns) (by rw [he]; simp)
    · exact List.cons_ne_nil _ _

theorem lower_of_not_isUpper (hc : c.value < 128) (hu : c.isUpper = false) : c.lower = [c] := by
  simp [lower, hc, hu]

theorem small_of_mem_lower (hc : c.isAsciiLetter = true) (hd : d ∈ c.lower) :
    97 ≤ d.value ∧ d.value ≤ 122 := by
  simp only [isAsciiLetter, Bool.or_eq_true, Bool.and_eq_true, decide_eq_true_eq] at hc
  have hlt : c.value < 128 := by omega
  rw [lower, if_pos hlt, List.mem_singleton] at hd
  simp only [isUpper, if_pos hlt, Bool.and_eq_true, decide_eq_true_eq] at hd
  split at hd
  · have hv : (c.value + 32).isValidChar := .inl (by omega)
    rw [hd, value_scalar_ofNat hv]
    omega
  · rw [hd]
    omega

end CodePoint

namespace Text

variable {t : Text}

theorem lower_ne_nil (h : t ≠ []) : lower t ≠ [] := by
  obtain ⟨c, r, rfl⟩ := List.exists_cons_of_ne_nil h
  rw [lower, lowerAfter]
  split
  · exact List.cons_ne_nil _ _
  · exact List.append_ne_nil_of_left_ne_nil (CodePoint.lower_ne_nil c) _

/-- The context matters for one capital only, which is outside of ASCII. -/
theorem lower_of_ascii (h : ∀ c ∈ t, c.value < 128) : lower t = t.flatMap CodePoint.lower := by
  have hafter : ∀ before, lowerAfter before t = t.flatMap CodePoint.lower := by
    induction t with
    | nil => intro before; rfl
    | cons c t ih =>
      intro before
      obtain ⟨hc, ht⟩ := List.forall_mem_cons.mp h
      have hs : c ≠ .scalar 'Σ' := by
        rintro rfl
        revert hc
        decide
      rw [lowerAfter, if_neg hs, ih ht, List.flatMap_cons]
  exact hafter []

theorem lower_eq_self (h : ∀ c ∈ t, c.value < 128 ∧ c.isUpper = false) : lower t = t := by
  rw [lower_of_ascii fun c hc => (h c hc).1]
  induction t with
  | nil => rfl
  | cons c t ih =>
    obtain ⟨⟨hc, hu⟩, ht⟩ := List.forall_mem_cons.mp h
    rw [List.flatMap_cons, CodePoint.lower_of_not_isUpper hc hu, ih ht]
    rfl

end Text

end StructCli
