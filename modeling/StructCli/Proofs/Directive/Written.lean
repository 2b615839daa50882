import StructCli.Proofs.Directive.Argument
import StructCli.Proofs.Directive.Flag

/-! # Written directives

The written form of a directive is a marker and a value. The value of well-formed arguments, or
of a well-formed flag, is read as these arguments or this flag, and nothing else is ever read.
-/

namespace StructCli

open Numeral

namespace Text

/-- No white space and no semicolon. -/
def Solid (t : Text) : Prop := ∀ c ∈ t, c.isBlank = false ∧ c ≠ .scalar ';'

variable {a b : Text}

theorem Solid.trimmed (h : Solid a) : Trimmed a := trimmed_of_forall fun c hc => (h c hc).1

theorem Solid.semicolon_not_mem (h : Solid a) : .scalar ';' ∉ a := fun hc => (h _ hc).2 rfl

theorem Solid.append (ha : Solid a) (hb : Solid b) : Solid (a ++ b) := by
  intro c hc
  rcases List.mem_append.mp hc with hc | hc
  · exact ha c hc
  · exact hb c hc

theorem Solid.cons {c : CodePoint} (hc : c.isBlank = false) (hs : c ≠ .scalar ';')
    (ha : Solid a) : Solid (c :: a) := by
  intro d hd
  rcases List.mem_cons.mp hd with rfl | hd
  · exact ⟨hc, hs⟩
  · exact ha d hd

theorem solid_nil : Solid [] := fun _ h => absurd h List.not_mem_nil

theorem solid_ofNat (n : Nat) : Solid (ofNat n) := by
  intro c hc
  have hd := isAsciiDigit_of_mem_ofNat hc
  refine ⟨isBlank_of_isAsciiDigit hd, ?_⟩
  rintro rfl
  exact absurd hd (by decide)

end Text

theorem Numeral.denotes_ofNat {n : Nat} (h : n < 10 ^ digitLimit) : Denotes (Text.ofNat n) n := by
  refine ⟨false, Text.ofNat n, ?_, (length_ofNat_le_iff (by decide)).mpr h, value_ofNat n, nofun⟩
  rw [Text.strip_of_trimmed (Text.solid_ofNat n).trimmed]
  exact signed?_eq_some_iff.mpr ⟨isUnsigned_ofNat n, .inr ⟨.inr rfl, rfl⟩⟩

theorem Numeral.Denotes.lt {t : Text} {n : Nat} (h : Denotes t n) : n < 10 ^ digitLimit := by
  obtain ⟨negative, ds, hs, hl, rfl, -⟩ := h
  have hd := (isUnsigned_iff.mp (signed?_eq_some_iff.mp hs).1).2
  exact (value_lt hd).trans_le (Nat.pow_le_pow_right (by decide) hl)

namespace ArgSpec

variable {a : ArgSpec} {v left : Text} {n : Nat}

/-- A position, a range without end, or a range that ends after its start, within the limit on
digits. -/
structure WellFormed (a : ArgSpec) : Prop where
  stop : a.stopIndex = a.start ∨ a.stopIndex = -1 ∨ (a.start : Int) < a.stopIndex
  start_lt : a.start < 10 ^ digitLimit
  stop_lt : ∀ n ∈ a.stop, n < 10 ^ digitLimit

theorem StartsAt.lt (h : StartsAt left n) : n < 10 ^ digitLimit := by
  rcases h with ⟨-, rfl⟩ | h
  · exact Nat.pow_pos (by decide)
  · exact h.lt

theorem wellFormed_position (h : n < 10 ^ digitLimit) : (position n).WellFormed :=
  ⟨.inl rfl, h, fun _ hm => Option.some.inj hm ▸ h⟩

theorem Describes.wellFormed (h : Describes v a) : a.WellFormed := by
  cases h with
  | digits hu hl =>
    have := value_lt (isUnsigned_iff.mp hu).2
    exact wellFormed_position (this.trans_le (Nat.pow_le_pow_right (by decide) hl))
  | bound _ _ hd => exact wellFormed_position hd.lt
  | rest _ _ hs => exact ⟨.inr (.inl rfl), hs.lt, nofun⟩
  | range _ _ _ hs hd hlt =>
    exact ⟨.inr (.inr (Int.ofNat_lt.mpr hlt)), hs.lt, fun _ hm => Option.some.inj hm ▸ hd.lt⟩

theorem not_mem_ofNat {c : CodePoint} (h : c.isAsciiDigit = false) (n : Nat) : c ∉ Text.ofNat n :=
  fun hc => by simp [isAsciiDigit_of_mem_ofNat hc] at h

theorem solid_brackets {t : Text} (h : t.Solid) : (brackets t).Solid :=
  .cons rfl (by decide) (h.append (.cons rfl (by decide) Text.solid_nil))

theorem WellFormed.exists_value (h : a.WellFormed) :
    ∃ v, a.render = DirectiveKind.arg.marker ++ v ∧ v.Solid ∧ Describes v a := by
  obtain ⟨start, stop⟩ := a
  have hs : Denotes (Text.ofNat start) start := denotes_ofNat h.start_lt
  have hcolon : ∀ n, .scalar ':' ∉ Text.ofNat n := not_mem_ofNat rfl
  have hclose : ∀ n, .scalar ']' ∉ Text.ofNat n := not_mem_ofNat rfl
  cases stop with
  | none =>
    by_cases h0 : start = 0
    · subst h0
      refine ⟨brackets ([] ++ [.scalar ':']), rfl, ?_, ?_⟩
      · exact solid_brackets (.cons rfl (by decide) Text.solid_nil)
      · exact .rest List.not_mem_nil List.not_mem_nil (.inl ⟨rfl, rfl⟩)
    · refine ⟨brackets (Text.ofNat start ++ [.scalar ':']), ?_, ?_, ?_⟩
      · simp [render, isRange, h0, brackets, Text.ofString, DirectiveKind.marker,
          DirectiveKind.label]
      · exact solid_brackets
          ((Text.solid_ofNat _).append (.cons rfl (by decide) Text.solid_nil))
      · exact .rest (hcolon _) (hclose _) (.inr hs)
  | some stop =>
    by_cases he : start = stop
    · subst he
      refine ⟨Text.ofNat start, ?_, Text.solid_ofNat _, ?_⟩
      · simp [render, isRange, Text.ofString, DirectiveKind.marker, DirectiveKind.label]
      · have := Describes.digits (isUnsigned_ofNat start)
          ((length_ofNat_le_iff (by decide)).mpr h.start_lt)
        rwa [value_ofNat] at this
    · have hlt : start < stop := by
        have := h.stop
        simp only [stopIndex] at this
        omega
      have hd : Denotes (Text.ofNat stop) stop := denotes_ofNat (h.stop_lt stop rfl)
      refine ⟨brackets (Text.ofNat start ++ .scalar ':' :: Text.ofNat stop), ?_, ?_, ?_⟩
      · simp [render, isRange, Ne.symm he, brackets, Text.ofString, DirectiveKind.marker,
          DirectiveKind.label]
      · exact solid_brackets
          ((Text.solid_ofNat _).append (.cons rfl (by decide) (Text.solid_ofNat _)))
      · exact .range (hcolon _) (hclose _) (hclose _) (.inr hs) hd hlt

end ArgSpec

namespace FlagSpec

variable {f : FlagSpec} {v : Text}

/-- A long name, and a letter as the short name if there is one. -/
structure WellFormed (f : FlagSpec) : Prop where
  long : LongName f.long
  short : f.short = [] ∨ ∃ c, f.short = [c] ∧ c.isAsciiLetter = true

theorem Describes.wellFormed (h : Describes v f) : f.WellFormed := by
  cases h with
  | long hl => exact ⟨hl, .inl rfl⟩
  | short hl _ hc => exact ⟨hl, .inr ⟨_, rfl, hc⟩⟩

theorem LongName.solid {l : Text} (h : LongName l) : l.Solid := by
  intro c hc
  have hn := h.forall_isNameChar c hc
  refine ⟨isBlank_of_isNameChar hn, ?_⟩
  rintro rfl
  exact absurd hn (by decide)

theorem WellFormed.exists_value (h : f.WellFormed) :
    ∃ v, f.render = DirectiveKind.flag.marker ++ v ∧ v.Solid ∧ Describes v f := by
  obtain ⟨long, short⟩ := f
  have hn : long ≠ [] := h.long.ne_nil
  rcases h.short with rfl | ⟨c, rfl, hc⟩
  · refine ⟨long, ?_, h.long.solid, .long h.long⟩
    simp [render, posixy, Text.ofString, DirectiveKind.marker, DirectiveKind.label]
  · refine ⟨long ++ .scalar ',' :: ([] ++ [c]), ?_, ?_, ?_⟩
    · simp [render, posixy, hn, Text.ofString, DirectiveKind.marker, DirectiveKind.label]
    · have hs : c ≠ .scalar ';' := by
        rintro rfl
        exact absurd hc (by decide)
      exact h.long.solid.append (.cons rfl (by decide)
        (.cons (isBlank_of_isAsciiLetter hc) hs Text.solid_nil))
    · exact .short h.long (fun _ h => absurd h List.not_mem_nil) hc

end FlagSpec

end StructCli
