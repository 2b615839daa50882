import StructCli.Proofs.Directive.Limit

/-! # Presence of a directive

A tag may lack a directive, hold it without a value, with a malformed value or with a proper one.
A reading tells these apart: it is silent on a directive that is absent and on one that is read,
and a value that is empty or malformed leaves exactly one warning. The last occurrence decides.
-/

namespace StructCli

open Directives

namespace Directives

/-- White space at its ends aside, the component begins with the marker of the directive. -/
def Carries (k : DirectiveKind) (component : Text) : Prop := k.marker <+: component.strip

def Absent (k : DirectiveKind) (tag : Option Text) : Prop :=
  ∀ t ∈ tag, ∀ c ∈ components t, ¬ Carries k c

/-- The last component that carries the directive gives it the value `v`. -/
def LastValue (k : DirectiveKind) (tag : Option Text) (v : Text) : Prop :=
  ∃ t ∈ tag, ∃ (before after : List Text) (c r : Text), components t = before ++ c :: after ∧
    c.strip = k.marker ++ r ∧ r.strip = v ∧ ∀ d ∈ after, ¬ Carries k d

variable {k : DirectiveKind} {tag : Option Text} {c v : Text}

theorem valueIn?_eq_none_iff : k.valueIn? c = none ↔ ¬ Carries k c := by
  rw [Option.eq_none_iff_forall_ne_some]
  constructor
  · rintro h ⟨r, hr⟩
    exact h (Text.strip r) (DirectiveKind.valueIn?_eq_some_iff.mpr ⟨r, hr.symm, rfl⟩)
  · rintro h v hv
    obtain ⟨r, hr, -⟩ := DirectiveKind.valueIn?_eq_some_iff.mp hv
    exact h ⟨r, hr.symm⟩

theorem absent_iff : Absent k tag ↔ occurrences k tag = [] := by
  cases tag with
  | none => simp [Absent, occurrences]
  | some t =>
    simp only [Absent, occurrences, Option.mem_def, Option.some.injEq, forall_eq',
      List.filterMap_eq_nil_iff, valueIn?_eq_none_iff]

theorem lastValue_iff : LastValue k tag v ↔ (occurrences k tag).getLast? = some v := by
  cases tag with
  | none => simp [LastValue, occurrences]
  | some t =>
    simp only [LastValue, occurrences, Option.mem_def, Option.some.injEq, exists_eq_left',
      List.getLast?_filterMap, List.findSome?_eq_some_iff, valueIn?_eq_none_iff,
      DirectiveKind.valueIn?_eq_some_iff]
    constructor
    · rintro ⟨before, after, c, r, hc, hr, hv, ha⟩
      refine ⟨after.reverse, c, before.reverse, by simp [hc], ⟨r, hr, hv⟩, fun d hd => ?_⟩
      exact ha d (List.mem_reverse.mp hd)
    · rintro ⟨after, c, before, hc, ⟨r, hr, hv⟩, ha⟩
      refine ⟨before.reverse, after.reverse, c, r, ?_, hr, hv, fun d hd => ?_⟩
      · rw [← List.reverse_reverse (components t), hc]
        simp
      · exact ha d (List.mem_reverse.mp hd)

theorem not_absent_iff : ¬ Absent k tag ↔ ∃ v, LastValue k tag v := by
  simp only [absent_iff, lastValue_iff, ← Option.isSome_iff_exists, List.getLast?_isSome, ne_eq]

theorem LastValue.get_eq (h : LastValue k tag v) : (ofTag tag).get k = v := by
  rw [get_ofTag, lastValue_iff.mp h, Option.getD_some]

theorem Absent.get_eq (h : Absent k tag) : (ofTag tag).get k = [] := by
  rw [get_ofTag, absent_iff.mp h]
  rfl

theorem mentions_iff_not_absent : mentions k tag = true ↔ ¬ Absent k tag := by
  rw [mentions_iff, absent_iff]

end Directives

/-- The notice is a warning that the directive is left out, with the tag and the reason. -/
def Notice.WarnsOf (n : Notice) (k : DirectiveKind) (tag : Option Text) (reason : Malformation) :
    Prop :=
  n.severity = .warning ∧ n.message = "Ignoring " ++ k.label ++ " directive in tag " ++
    Text.quoted (tag.getD []) ++ ": " ++ reason.message

/-- What a reading makes of each state that a directive may have in a tag. -/
structure TellsApart {α : Type} (k : DirectiveKind) (ofValue : Text → Except DirectiveError α)
    (tag : Option Text) (read : Report (Option α)) : Prop where
  silent_iff : read = ⟨[], .ok none⟩ ↔ Absent k tag
  empty : LastValue k tag [] → ∃ n, n.WarnsOf k tag .empty ∧ read = ⟨[n], .ok none⟩
  malformed : ∀ v k' value reason, LastValue k tag v → v ≠ [] →
    ofValue v = .error (.malformed k' value reason) →
    ∃ n, n.WarnsOf k tag reason ∧ read = ⟨[n], .ok none⟩
  valid : ∀ v a, LastValue k tag v → v ≠ [] → ofValue v = .ok a → read = ⟨[], .ok (some a)⟩
  error_iff : ∀ e, read.outcome = .error e ↔ ∃ v n, LastValue k tag v ∧ v ≠ [] ∧
    ofValue v = .error (.numeral n) ∧ e = .directive (.numeral n)

section Reading

variable {α : Type} {k : DirectiveKind} {ofValue : Text → Except DirectiveError α}
  {tag : Option Text} {v : Text}

theorem readDirective_of_empty (h : LastValue k tag []) :
    readDirective k ofValue tag = ⟨[.directiveEmpty k (tag.getD [])], .ok none⟩ := by
  have hm : mentions k tag = true := mentions_iff_not_absent.mpr (not_absent_iff.mpr ⟨_, h⟩)
  simp only [readDirective, h.get_eq, if_true, hm]
  rfl

theorem readDirective_of_malformed {k' : DirectiveKind} {value : Text} {reason : Malformation}
    (h : LastValue k tag v) (hv : v ≠ []) (hr : ofValue v = .error (.malformed k' value reason)) :
    readDirective k ofValue tag = ⟨[.directiveIgnored k (tag.getD []) reason], .ok none⟩ := by
  simp only [readDirective, h.get_eq, hv, if_false, hr]
  rfl

theorem readDirective_of_valid {a : α} (h : LastValue k tag v) (hv : v ≠ [])
    (ha : ofValue v = .ok a) : readDirective k ofValue tag = ⟨[], .ok (some a)⟩ := by
  apply readDirective_of_ok <;> rwa [h.get_eq]

theorem readDirective_eq_error_iff {e : Failure} :
    (readDirective k ofValue tag).outcome = .error e ↔ ∃ v n, LastValue k tag v ∧ v ≠ [] ∧
      ofValue v = .error (.numeral n) ∧ e = .directive (.numeral n) := by
  rw [readDirective_outcome_eq_error_iff]
  constructor
  · rintro ⟨hv, n, hn, he⟩
    have ha : ¬ Absent k tag := fun ha => hv ha.get_eq
    obtain ⟨v, h⟩ := not_absent_iff.mp ha
    rw [h.get_eq] at hv hn
    exact ⟨v, n, h, hv, hn, he⟩
  · rintro ⟨v, n, h, hv, hn, he⟩
    rw [h.get_eq]
    exact ⟨hv, n, hn, he⟩

/-- A directive that is not absent leaves a notice, a value or a failure. -/
theorem readDirective_eq_silent_iff :
    readDirective k ofValue tag = ⟨[], .ok none⟩ ↔ Absent k tag := by
  constructor
  · intro hs
    by_contra ha
    obtain ⟨v, h⟩ := not_absent_iff.mp ha
    by_cases hv : v = []
    · subst hv
      simp [readDirective_of_empty h] at hs
    · cases hr : ofValue v with
      | ok a => simp [readDirective_of_valid h hv hr] at hs
      | error e =>
        cases e with
        | malformed k' value reason => simp [readDirective_of_malformed h hv hr] at hs
        | numeral n =>
          have hf := readDirective_eq_error_iff.mpr ⟨v, n, h, hv, hr, rfl⟩
          rw [hs] at hf
          cases hf
  · intro ha
    exact readDirective_of_absent (absent_iff.mp ha)

theorem tellsApart_readDirective (k : DirectiveKind) (ofValue : Text → Except DirectiveError α)
    (tag : Option Text) : TellsApart k ofValue tag (readDirective k ofValue tag) where
  silent_iff := readDirective_eq_silent_iff
  empty h := ⟨_, ⟨rfl, rfl⟩, readDirective_of_empty h⟩
  malformed _ _ _ _ h hv hr := ⟨_, ⟨rfl, rfl⟩, readDirective_of_malformed h hv hr⟩
  valid _ _ h hv ha := readDirective_of_valid h hv ha
  error_iff _ := readDirective_eq_error_iff

end Reading

/-- The readings of `arg` and `flag` directives tell apart what a tag may hold of them. Only a run
of digits beyond the limit fails the reading of an `arg` directive, and nothing fails that of a
`flag` directive. -/
theorem readings_tell_apart (tag : Option Text) :
    TellsApart .arg ArgSpec.ofValue tag (ArgSpec.ofTag tag) ∧
    (∀ e, (ArgSpec.ofTag tag).outcome = .error e → ∃ v ds, LastValue .arg tag v ∧ ds <:+: v ∧
      (∀ c ∈ ds, c.isAsciiDigit = true) ∧ Numeral.digitLimit < ds.length ∧
      e = .directive (.numeral ⟨ds.length⟩)) ∧
    TellsApart .flag FlagSpec.ofValue tag (FlagSpec.ofTag tag) ∧
    ∀ e, (FlagSpec.ofTag tag).outcome ≠ .error e := by
  refine ⟨tellsApart_readDirective _ _ _, ?_, tellsApart_readDirective _ _ _, ?_⟩
  · intro e he
    obtain ⟨v, ds, hv, hd, rfl⟩ := ArgSpec.ofTag_outcome_eq_error_iff.mp he
    exact ⟨v, ds, lastValue_iff.mpr hv, hd.digits_infix,
      (Numeral.isUnsigned_iff.mp hd.isUnsigned).2, hd.limit_lt, rfl⟩
  · intro e he
    obtain ⟨f, hf⟩ := FlagSpec.exists_outcome_ofTag tag
    rw [hf] at he
    cases he

/-- An earlier `arg` directive is overridden by an empty one, and the flag is malformed. -/
theorem readings_of_overridden :
    (∃ n : Notice, n.WarnsOf .arg (some "arg:1; flag:x ;arg:  ") .empty ∧
      ArgSpec.ofTag (some "arg:1; flag:x ;arg:  ") = ⟨[n], .ok none⟩) ∧
    (∃ n : Notice, n.WarnsOf .flag (some "arg:1; flag:x ;arg:  ") .flagShape ∧
      FlagSpec.ofTag (some "arg:1; flag:x ;arg:  ") = ⟨[n], .ok none⟩) ∧
    FlagSpec.ofTag (some "arg:1") = ⟨[], .ok none⟩ := by
  refine ⟨?_, ?_, ?_⟩
  · exact (readings_tell_apart _).1.empty ⟨_, rfl, ["arg:1", " flag:x "], [], "arg:  ", [], rfl,
      rfl, rfl, by simp⟩
  · refine (readings_tell_apart _).2.2.1.malformed "x" .flag "x" .flagShape
      ⟨_, rfl, ["arg:1"], ["arg:  "], " flag:x ", "x", rfl, rfl, rfl, ?_⟩ (by decide) rfl
    rw [List.forall_mem_singleton, Carries]
    decide
  · refine (readings_tell_apart _).2.2.1.silent_iff.mpr ?_
    rintro t ⟨⟩ c hc
    obtain rfl : c = "arg:1" := List.mem_singleton.mp hc
    rw [Carries]
    decide

end StructCli
