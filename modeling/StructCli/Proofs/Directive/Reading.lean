import StructCli.Proofs.Directive.Occurrence
import StructCli.Proofs.Outcome

/-! # Reading a directive

A directive that does not occur is read as absent, without a notice. Of all faults of a value,
only a numeral beyond the limit fails the reading.
-/

namespace StructCli

open Directives

variable {α : Type} {k : DirectiveKind} {ofValue : Text → Except DirectiveError α}
  {tag : Option Text} {a : α}

theorem readDirective_of_absent (h : occurrences k tag = []) :
    readDirective k ofValue tag = pure none := by
  have hv : (ofTag tag).get k = [] := by rw [get_ofTag, h]; rfl
  have hm : ¬ mentions k tag = true := fun hm => mentions_iff.mp hm h
  simp only [readDirective, hv, if_true, hm]
  rfl

theorem readDirective_of_ok (hv : (ofTag tag).get k ≠ [])
    (ha : ofValue ((ofTag tag).get k) = .ok a) : readDirective k ofValue tag = pure (some a) := by
  simp only [readDirective, hv, if_false, ha]

theorem readDirective_outcome_of_empty (hv : (ofTag tag).get k = []) :
    (readDirective k ofValue tag).outcome = .ok none := by
  simp only [readDirective, hv, if_true]
  split <;> rfl

theorem readDirective_outcome_congr {tag' : Option Text}
    (h : (ofTag tag).get k = (ofTag tag').get k) :
    (readDirective k ofValue tag).outcome = (readDirective k ofValue tag').outcome := by
  by_cases hv : (ofTag tag).get k = []
  · rw [readDirective_outcome_of_empty hv, readDirective_outcome_of_empty (h ▸ hv)]
  · have hv' : (ofTag tag').get k ≠ [] := h ▸ hv
    simp only [readDirective, hv', if_false, h]
    cases ofValue ((ofTag tag').get k) with
    | ok a => rfl
    | error e => cases e <;> rfl

theorem readDirective_outcome_eq_some (h : (readDirective k ofValue tag).outcome = .ok (some a)) :
    ofValue ((ofTag tag).get k) = .ok a := by
  by_cases hv : (ofTag tag).get k = []
  · simp [readDirective_outcome_of_empty hv] at h
  · cases ha : ofValue ((ofTag tag).get k) with
    | ok b =>
      rw [readDirective_of_ok hv ha, Report.outcome_pure] at h
      rw [Option.some.inj (Except.ok.inj h)]
    | error e =>
      simp only [readDirective, hv, if_false, ha] at h
      cases e <;> simp at h

theorem readDirective_outcome_eq_error_iff {e : Failure} :
    (readDirective k ofValue tag).outcome = .error e ↔ (ofTag tag).get k ≠ [] ∧
      ∃ n, ofValue ((ofTag tag).get k) = .error (.numeral n) ∧
        e = .directive (.numeral n) := by
  by_cases hv : (ofTag tag).get k = []
  · simp [readDirective_outcome_of_empty hv, hv]
  · cases ha : ofValue ((ofTag tag).get k) with
    | ok b => simp [readDirective_of_ok hv ha]
    | error d =>
      simp only [readDirective, hv, if_false, ha]
      cases d with
      | malformed => simp
      | numeral n => simpa [hv] using eq_comm

end StructCli
