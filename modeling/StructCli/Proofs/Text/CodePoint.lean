import StructCli.Text.Basic

/-! # Code points and their numbers

A code point is known by its number, and the numbers of code points end below `0x110000`.
-/

namespace StructCli.CodePoint

variable {c d : CodePoint} {n : Nat}

theorem value_scalar_ofNat (h : n.isValidChar) : (scalar (Char.ofNat n)).value = n := by
  rw [value, Char.ofNat, dif_pos h]
  rfl

theorem value_of_ofNat? (h : ofNat? n = some c) : c.value = n := by
  unfold ofNat? at h
  split at h
  · obtain rfl := Option.some.inj h
    simp only [value]
    omega
  · split at h
    · next hs hn =>
      obtain rfl := Option.some.inj h
      have hv : n.isValidChar := by
        unfold Nat.isValidChar
        omega
      exact value_scalar_ofNat hv
    · cases h

theorem ofNat?_value (c : CodePoint) : ofNat? c.value = some c := by
  cases c with
  | surrogate half =>
    have hlt := half.isLt
    have hs : 0xD800 ≤ 0xD800 + half.val ∧ 0xD800 + half.val < 0xE000 := by omega
    simp [value, ofNat?, hs]
  | scalar c =>
    have hv : c.toNat < 0xD800 ∨ (0xDFFF < c.toNat ∧ c.toNat < 0x110000) := c.valid
    have hs : ¬ (0xD800 ≤ c.toNat ∧ c.toNat < 0xE000) := by omega
    have hn : c.toNat < 0x110000 := by omega
    simp [value, ofNat?, hs, hn]

theorem eq_of_value_eq (h : c.value = d.value) : c = d := by
  have hc := ofNat?_value c
  rw [h, ofNat?_value d] at hc
  exact (Option.some.inj hc).symm

end StructCli.CodePoint
