import StructCli.Proofs.Directive.Argument
import StructCli.Proofs.Directive.Flag
import StructCli.Proofs.Directive.Reading

/-! # The limit on digits

A numeral beyond the limit fails the reading of an `arg` directive, and nothing else does. A tag
without such a run of digits is read, and a flag always is.
-/

namespace StructCli

open Numeral

variable {t v ds : Text} {tag : Option Text} {e : Failure}

theorem Numeral.Exceeds.digits_infix (h : Exceeds t ds) : ds <:+: t := by
  obtain ⟨⟨_, hs⟩, -⟩ := h
  exact (infix_of_signed? hs).trans (Text.strip_infix t)

namespace ArgSpec

theorem infix_brackets (t : Text) : t <:+: brackets t := ⟨[.scalar '['], [.scalar ']'], rfl⟩

theorem Overruns.digits_infix (h : Overruns v ds) : ds <:+: v := by
  cases h with
  | digits => exact List.infix_rfl
  | bound _ _ hd => exact hd.digits_infix.trans (infix_brackets _)
  | start _ _ _ hd =>
    exact (hd.digits_infix.trans (List.prefix_append _ _).isInfix).trans (infix_brackets _)
  | @stop left right _ _ _ _ _ _ hd =>
    have hr : right <:+ left ++ .scalar ':' :: right :=
      (List.suffix_cons _ _).trans (List.suffix_append _ _)
    exact (hd.digits_infix.trans hr.isInfix).trans (infix_brackets _)

theorem Overruns.isUnsigned (h : Overruns v ds) : isUnsigned ds = true := by
  cases h with
  | digits hu => exact hu
  | bound _ _ hd | start _ _ _ hd | stop _ _ _ _ hd =>
    obtain ⟨⟨_, hs⟩, -⟩ := hd
    exact (signed?_eq_some_iff.mp hs).1

theorem Overruns.limit_lt (h : Overruns v ds) : digitLimit < ds.length := by
  cases h with
  | digits _ hl => exact hl
  | bound _ _ hd | start _ _ _ hd | stop _ _ _ _ hd => exact hd.2

theorem Overruns.not_bounded (h : Overruns v ds) : ¬ Bounded v := fun hb =>
  Nat.not_le_of_lt h.limit_lt (hb ds h.digits_infix (isUnsigned_iff.mp h.isUnsigned).2)

theorem Overruns.ne_nil (h : Overruns v ds) : v ≠ [] := by
  rintro rfl
  exact (isUnsigned_iff.mp h.isUnsigned).1 (List.infix_nil.mp h.digits_infix)

/-- The last `arg` directive of the tag meets a numeral beyond the limit. -/
theorem ofTag_outcome_eq_error_iff : (ArgSpec.ofTag tag).outcome = .error e ↔
    ∃ v ds, (Directives.occurrences .arg tag).getLast? = some v ∧ Overruns v ds ∧
      e = .directive (.numeral ⟨ds.length⟩) := by
  rw [ArgSpec.ofTag, readDirective_outcome_eq_error_iff]
  simp only [ofValue_eq_numeral_iff, Text.strip_of_trimmed (Directives.trimmed_get_ofTag tag .arg)]
  rw [Directives.get_ofTag]
  constructor
  · rintro ⟨hv, n, ⟨ds, ho, rfl⟩, rfl⟩
    cases hl : (Directives.occurrences .arg tag).getLast? with
    | none => rw [hl] at hv; exact absurd rfl hv
    | some v =>
      rw [hl] at ho
      exact ⟨v, ds, rfl, ho, rfl⟩
  · rintro ⟨v, ds, hl, ho, rfl⟩
    rw [hl]
    exact ⟨ho.ne_nil, _, ⟨ds, ho, rfl⟩, rfl⟩

theorem exists_outcome_ofTag (h : Bounded v) :
    ∃ a, (ArgSpec.ofTag (some v)).outcome = .ok a := by
  cases ho : (ArgSpec.ofTag (some v)).outcome with
  | ok a => exact ⟨a, rfl⟩
  | error e =>
    obtain ⟨w, ds, hw, hd, -⟩ := ofTag_outcome_eq_error_iff.mp ho
    have hget := Directives.get_ofTag_infix v .arg
    rw [Directives.get_ofTag, hw] at hget
    exact absurd (h.mono hget) hd.not_bounded

end ArgSpec

theorem FlagSpec.exists_outcome_ofTag (tag : Option Text) :
    ∃ f, (FlagSpec.ofTag tag).outcome = .ok f := by
  cases ho : (FlagSpec.ofTag tag).outcome with
  | ok f => exact ⟨f, rfl⟩
  | error e =>
    obtain ⟨-, n, hn, -⟩ := readDirective_outcome_eq_error_iff.mp ho
    exact absurd hn FlagSpec.ofValue_ne_numeral

end StructCli
