import StructCli.Text.Utf8

/-! # Decoding what has been encoded

Bytes that encode characters are decoded to these characters.
-/

namespace StructCli.Utf8

theorem continuation_ofNat {low high : UInt8} {bits n k : Nat} {bytes : List UInt8}
    (hlow : low.toNat ≤ k + 128) (hhigh : k + 128 ≤ high.toNat) :
    continuation low high bits (n + 1) (UInt8.ofNat (k + 128) :: bytes) =
      match continuation 0x80 0xBF (bits * 64 + k) n bytes with
      | .ok r => .ok r
      | .error (j, reason) => .error (j + 1, reason) := by
  have hk : (UInt8.ofNat (k + 128)).toNat = k + 128 := by
    have := high.toNat_lt
    simp only [UInt8.toNat_ofNat']
    omega
  have hbits : bits * 64 + ((UInt8.ofNat (k + 128)).toNat - 128) = bits * 64 + k := by
    rw [hk, Nat.add_sub_cancel]
  have hbounds : (low ≤ UInt8.ofNat (k + 128) && UInt8.ofNat (k + 128) ≤ high) = true := by
    simp only [UInt8.le_iff_toNat_le, hk, Bool.and_eq_true, decide_eq_true_eq]
    exact ⟨hlow, hhigh⟩
  refine (if_pos hbounds).trans ?_
  rcases hrest : continuation 0x80 0xBF (bits * 64 + k) n bytes with ⟨j, reason⟩ | r
  · simp only [hbits, hrest]
  · simp only [hbits, hrest]

variable {n : Nat}

theorem lead?_ofNat (hn : n < 256) : lead? (UInt8.ofNat n) =
    if n < 0x80 then some ⟨0, 0x80, 0xBF, n⟩
    else if n < 0xC2 then none
    else if n < 0xE0 then some ⟨1, 0x80, 0xBF, n - 0xC0⟩
    else if n = 0xE0 then some ⟨2, 0xA0, 0xBF, 0⟩
    else if n = 0xED then some ⟨2, 0x80, 0x9F, 0xD⟩
    else if n < 0xF0 then some ⟨2, 0x80, 0xBF, n - 0xE0⟩
    else if n = 0xF0 then some ⟨3, 0x90, 0xBF, 0⟩
    else if n < 0xF4 then some ⟨3, 0x80, 0xBF, n - 0xF0⟩
    else if n = 0xF4 then some ⟨3, 0x80, 0x8F, 4⟩
    else none := by
  have hb : (UInt8.ofNat n).toNat = n := by
    simp only [UInt8.toNat_ofNat']
    omega
  simp only [lead?, UInt8.lt_iff_toNat_lt, beq_iff_eq, ← UInt8.toNat_inj, hb]
  rfl

variable {v position : Nat} {rest : List UInt8}

theorem decodeChar_one (hv : v ≤ 0x7F) :
    decodeChar position (UInt8.ofNat v) rest = .ok (Char.ofNat v, 1, rest) := by
  rw [decodeChar, lead?_ofNat (by omega), if_pos (by omega)]
  rfl

theorem decodeChar_two (hlow : 0x7F < v) (hv : v ≤ 0x7FF) :
    decodeChar position (UInt8.ofNat (v / 64 % 32 + 192)) (UInt8.ofNat (v % 64 + 128) :: rest) =
      .ok (Char.ofNat v, 2, rest) := by
  have hbits : (v / 64 % 32 + 192 - 192) * 64 + v % 64 = v := by omega
  rw [decodeChar, lead?_ofNat (by omega), if_neg (by omega), if_neg (by omega), if_pos (by omega)]
  dsimp only
  rw [continuation_ofNat (by simp) (by simp; omega), hbits]
  rfl

/-- The bounds of the second byte leave out long forms and surrogates. -/
theorem decodeChar_three (hlow : 0x7FF < v) (hv : v ≤ 0xFFFF) (hs : v < 0xD800 ∨ 0xDFFF < v) :
    decodeChar position (UInt8.ofNat (v / 4096 % 16 + 224))
        (UInt8.ofNat (v / 64 % 64 + 128) :: UInt8.ofNat (v % 64 + 128) :: rest) =
      .ok (Char.ofNat v, 3, rest) := by
  have hlead : ∃ l, lead? (UInt8.ofNat (v / 4096 % 16 + 224)) = some l ∧ l.following = 2 ∧
      l.bits = v / 4096 ∧ l.low.toNat ≤ v / 64 % 64 + 128 ∧ v / 64 % 64 + 128 ≤ l.high.toNat := by
    rw [lead?_ofNat (by omega), if_neg (by omega), if_neg (by omega), if_neg (by omega)]
    split
    · exact ⟨_, rfl, rfl, by dsimp only; omega, by simp; omega, by simp; omega⟩
    · split
      · exact ⟨_, rfl, rfl, by dsimp only; omega, by simp, by simp; omega⟩
      · rw [if_pos (by omega)]
        exact ⟨_, rfl, rfl, by dsimp only; omega, by simp, by simp; omega⟩
  obtain ⟨l, hl, hf, hb, hlo, hhi⟩ := hlead
  have hbits : (v / 4096 * 64 + v / 64 % 64) * 64 + v % 64 = v := by omega
  rw [decodeChar, hl]
  dsimp only
  rw [hf, hb, continuation_ofNat hlo hhi, continuation_ofNat (by simp) (by simp; omega), hbits]
  rfl

theorem decodeChar_four (hlow : 0xFFFF < v) (hv : v < 0x110000) :
    decodeChar position (UInt8.ofNat (v / 262144 % 8 + 240))
        (UInt8.ofNat (v / 4096 % 64 + 128) :: UInt8.ofNat (v / 64 % 64 + 128) ::
          UInt8.ofNat (v % 64 + 128) :: rest) =
      .ok (Char.ofNat v, 4, rest) := by
  have hlead : ∃ l, lead? (UInt8.ofNat (v / 262144 % 8 + 240)) = some l ∧ l.following = 3 ∧
      l.bits = v / 262144 ∧ l.low.toNat ≤ v / 4096 % 64 + 128 ∧
      v / 4096 % 64 + 128 ≤ l.high.toNat := by
    rw [lead?_ofNat (by omega), if_neg (by omega), if_neg (by omega), if_neg (by omega),
      if_neg (by omega), if_neg (by omega), if_neg (by omega)]
    split
    · exact ⟨_, rfl, rfl, by dsimp only; omega, by simp; omega, by simp; omega⟩
    · split
      · exact ⟨_, rfl, rfl, by dsimp only; omega, by simp, by simp; omega⟩
      · rw [if_pos (by omega)]
        exact ⟨_, rfl, rfl, by dsimp only; omega, by simp, by simp; omega⟩
  obtain ⟨l, hl, hf, hb, hlo, hhi⟩ := hlead
  have hbits : ((v / 262144 * 64 + v / 4096 % 64) * 64 + v / 64 % 64) * 64 + v % 64 = v := by
    omega
  rw [decodeChar, hl]
  dsimp only
  rw [hf, hb, continuation_ofNat hlo hhi, continuation_ofNat (by simp) (by simp; omega),
    continuation_ofNat (by simp) (by simp; omega), hbits]
  rfl

theorem decodeChar_encode (c : Char) (position : Nat) (rest : List UInt8) :
    ∃ b bytes, String.utf8EncodeChar c = b :: bytes ∧
      decodeChar position b (bytes ++ rest) = .ok (c, bytes.length + 1, rest) := by
  have hvalid : c.val.toNat < 0xD800 ∨ 0xDFFF < c.val.toNat ∧ c.val.toNat < 0x110000 := c.valid
  have hc : Char.ofNat c.val.toNat = c := Char.ofNat_toNat c
  rw [String.utf8EncodeChar]
  generalize c.val.toNat = v at hvalid hc
  subst hc
  split
  · exact ⟨_, _, rfl, decodeChar_one (by omega)⟩
  · split
    · exact ⟨_, _, rfl, decodeChar_two (by omega) (by omega)⟩
    · split
      · exact ⟨_, _, rfl, decodeChar_three (by omega) (by omega) (by omega)⟩
      · exact ⟨_, _, rfl, decodeChar_four (by omega) (by omega)⟩

theorem decodeFrom_encode (cs : List Char) (fuel position : Nat)
    (hfuel : (cs.flatMap String.utf8EncodeChar).length ≤ fuel) :
    decodeFrom fuel position (cs.flatMap String.utf8EncodeChar) = .ok cs := by
  induction cs generalizing fuel position with
  | nil => cases fuel <;> rfl
  | cons c cs ih =>
    obtain ⟨b, bytes, he, hd⟩ := decodeChar_encode c position (cs.flatMap String.utf8EncodeChar)
    rw [List.flatMap_cons, he, List.cons_append] at hfuel ⊢
    cases fuel with
    | zero => simp at hfuel
    | succ fuel =>
      rw [decodeFrom, hd]
      simp only [List.length_cons, List.length_append] at hfuel
      simp only [bind, Except.bind, ih fuel _ (by omega)]
      rfl

theorem toList_toUTF8 (source : String) :
    source.toUTF8.data.toList = source.toList.flatMap String.utf8EncodeChar := by
  rw [String.toUTF8, ← String.utf8Encode_toList, List.utf8Encode]
  simp

theorem decode_encode (source : String) : decode source.toUTF8.data.toList = .ok source.toList := by
  rw [decode, toList_toUTF8]
  exact decodeFrom_encode _ _ _ (Nat.le_refl _)

theorem encode_inj {cs ds : List Char}
    (h : cs.flatMap String.utf8EncodeChar = ds.flatMap String.utf8EncodeChar) : cs = ds := by
  have hc := decodeFrom_encode cs _ 0 (Nat.le_refl _)
  rw [h, decodeFrom_encode ds _ 0 (Nat.le_refl _)] at hc
  exact (Except.ok.inj hc).symm

end StructCli.Utf8
