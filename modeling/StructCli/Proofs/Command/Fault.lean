import StructCli.Proofs.Command.Fields

/-! # Faulty fields

A tag fails the compilation of its field in two ways: by an escape whose number needs more than 31
bits, in the literal or in the value, and by a numeral beyond the limit on digits. Nothing else
fails the compilation of a command.
-/

namespace StructCli

/-- How a tag literal fails the compilation of its field. -/
inductive TagFault (key literal : Text) : Failure → Prop where

  | literal {body : Text} : literal = .scalar '"' :: (body ++ [.scalar '"']) →
      ¬ Go.Literal.BareQuote body → Go.Literal.Overflows body →
      TagFault key literal (.literal .overflow)

  | value {structTag body : Text} : Go.Literal.unquote literal = .ok structTag →
      Go.StructTag.FirstPair structTag key body → Go.Literal.Overflows body →
      TagFault key literal (.literal .overflow)

  | numeral {structTag body value v ds : Text} : Go.Literal.unquote literal = .ok structTag →
      Go.StructTag.FirstPair structTag key body → Go.Literal.Spells body value →
      (Directives.occurrences .arg (some value)).getLast? = some v → ArgSpec.Overruns v ds →
      TagFault key literal (.directive (.numeral ⟨ds.length⟩))

/-- How a field fails. Fields that are not exported are skipped before their tags are read. -/
def FieldFault (key : Text) (field : FieldDecl) (e : Failure) : Prop :=
  field.exported = true ∧ ∃ literal, field.tag = some literal ∧ TagFault key literal e

def PackageDecl.fieldsOf (package : PackageDecl) (typeName : Text) : List FieldDecl :=
  match package.findType typeName with
  | some t => if t.isStruct then t.fields.getD [] else []
  | none => []

namespace Command

open Go.Literal Go.StructTag

variable {key name literal typeName : Text} {field : FieldDecl} {fields : List FieldDecl}
  {package : PackageDecl} {e : Failure}

theorem tagOfLiteral_of_fault (h : TagFault key literal e) :
    (tagOfLiteral name (some literal) key).outcome = .error e := by
  cases h with
  | literal hl hq ho => exact tagOfLiteral_of_overflow (unquote_eq_overflow_iff.mpr ⟨_, hl, hq, ho⟩)
  | value hu hp ho =>
    exact tagOfLiteral_of_lookup_error hu (lookup_eq_error_iff.mpr ⟨rfl, _, hp, ho⟩)
  | @numeral _ body value _ _ hu hp hs hv hd =>
    have hbody : unquote (enclose body) = .ok value := by
      rw [unquote_enclose, interpret_eq_ok_iff.mpr hs]
    rw [tagOfLiteral_of_value hu (lookup_eq_some_iff.mpr ⟨_, hp, hbody⟩),
      ArgSpec.ofTag_outcome_eq_error_iff.mpr ⟨_, _, hv, hd, rfl⟩, error_bind]

theorem fault_of_tagOfLiteral (h : (tagOfLiteral name (some literal) key).outcome = .error e) :
    TagFault key literal e := by
  cases hu : unquote literal with
  | error d =>
    by_cases hd : d = .overflow
    · subst hd
      rw [tagOfLiteral_of_overflow hu] at h
      obtain ⟨body, hl, hq, ho⟩ := unquote_eq_overflow_iff.mp hu
      exact Except.error.inj h ▸ .literal hl hq ho
    · rw [tagOfLiteral_of_unreadable hu hd] at h
      cases h
  | ok structTag =>
    cases hl : lookup structTag key with
    | error d =>
      rw [tagOfLiteral_of_lookup_error hu hl] at h
      obtain ⟨rfl, body, hp, ho⟩ := lookup_eq_error_iff.mp hl
      exact Except.error.inj h ▸ .value hu hp ho
    | ok o =>
      cases o with
      | none =>
        rw [tagOfLiteral_of_no_value hu hl] at h
        cases h
      | some value =>
        obtain ⟨body, hp, hv⟩ := lookup_eq_some_iff.mp hl
        rw [unquote_enclose, interpret_eq_ok_iff] at hv
        rw [tagOfLiteral_of_value hu hl, bind_eq_error_iff] at h
        rcases h with h | ⟨_, _, h⟩
        · obtain ⟨v, ds, hlast, hd, rfl⟩ := ArgSpec.ofTag_outcome_eq_error_iff.mp h
          exact .numeral hu hp hv hlast hd
        · cases h

theorem tagOfLiteral_eq_error_iff :
    (tagOfLiteral name (some literal) key).outcome = .error e ↔ TagFault key literal e :=
  ⟨fault_of_tagOfLiteral, tagOfLiteral_of_fault⟩

theorem inputOfField_eq_error_iff :
    (inputOfField key field).outcome = .error e ↔ FieldFault key field e := by
  cases hx : field.exported with
  | false => simp [inputOfField_of_not_exported hx, FieldFault, hx]
  | true =>
    obtain ⟨name, hn⟩ := FieldDecl.names_of_exported hx
    rw [inputOfField_of_exported hx hn, bind_eq_error_iff]
    simp only [FieldFault, hx, true_and, reduceCtorEq, and_false, exists_false, or_false]
    cases ht : field.tag with
    | none => simp [tagOfLiteral]
    | some literal => simp [tagOfLiteral_eq_error_iff]

theorem exists_inputOfField_iff :
    (∃ input, (inputOfField key field).outcome = .ok input) ↔ ∀ e, ¬ FieldFault key field e := by
  simp only [← inputOfField_eq_error_iff]
  cases (inputOfField key field).outcome <;> simp

theorem exists_outcome_helpOfDoc (doc package command : Text) :
    ∃ help, (helpOfDoc doc package command).outcome = .ok help := by
  unfold helpOfDoc
  cases Text.dropPrefix? doc helpMarker with
  | none => by_cases hd : doc = [] <;> simp [hd]
  | some r => by_cases hr : r = [] <;> simp [hr]

/-- The inputs of a command come from its fields, and the help never fails. -/
theorem exists_ofType_eq (package : PackageDecl) (typeName key : Text) :
    ∃ f : List CommandInput → Command, (∀ inputs, (f inputs).inputs = inputs) ∧
      (ofType package typeName key).outcome =
        (inputsOfFields key (package.fieldsOf typeName)).outcome >>= fun inputs =>
          .ok (f inputs) := by
  obtain ⟨help, hh⟩ := exists_outcome_helpOfDoc package.doc package.name
    (nameOfPackage package.name)
  refine ⟨fun inputs => {
    name := nameOfPackage package.name
    package := package.name
    type := typeName
    help
    description := Text.strip ((package.findType typeName).elim [] TypeDecl.doc)
    inputs }, fun _ => rfl, ?_⟩
  unfold ofType PackageDecl.fieldsOf
  cases package.findType typeName with
  | none => simp [inputsOfFields, hh]
  | some t => cases ht : t.isStruct <;> simp [ht, inputsOfType, inputsOfFields, hh]

theorem ofType_eq_error_iff : (ofType package typeName key).outcome = .error e ↔
    ∃ before field after, package.fieldsOf typeName = before ++ field :: after ∧
      (∀ f ∈ before, ∀ e, ¬ FieldFault key f e) ∧ FieldFault key field e := by
  obtain ⟨f, -, hf⟩ := exists_ofType_eq package typeName key
  simp only [hf, bind_eq_error_iff, reduceCtorEq, and_false, exists_false, or_false,
    inputsOfFields_eq_error_iff, exists_inputOfField_iff, inputOfField_eq_error_iff]

theorem exists_ofType_iff : (∃ c, (ofType package typeName key).outcome = .ok c) ↔
    ∀ field ∈ package.fieldsOf typeName, ∀ e, ¬ FieldFault key field e := by
  obtain ⟨f, -, hf⟩ := exists_ofType_eq package typeName key
  simp only [← exists_inputOfField_iff, ← exists_inputsOfFields_iff, hf]
  cases (inputsOfFields key (package.fieldsOf typeName)).outcome <;> simp

theorem load_eq_error_iff {declarations : Report PackageDecl} {filename : Text}
    (h : declarations.outcome = .ok package) :
    (load declarations filename typeName key).outcome = .error e ↔
      (package.findType typeName = none ∧ e = .type typeName (.missing filename)) ∨
      (∃ t, package.findType typeName = some t ∧ t.isStruct = false ∧
        e = .type typeName (.notStruct filename t.kind)) ∨
      (ofType package typeName key).outcome = .error e := by
  have hnone : package.fieldsOf typeName = [] → (ofType package typeName key).outcome ≠ .error e := by
    intro hf he
    obtain ⟨before, field, after, hfields, -⟩ := ofType_eq_error_iff.mp he
    simp [hf] at hfields
  simp only [load, Report.outcome_bind, h, ok_bind]
  cases ht : package.findType typeName with
  | none =>
    have := hnone (by rw [PackageDecl.fieldsOf, ht])
    simpa [this] using eq_comm
  | some t =>
    cases hs : t.isStruct with
    | true => simp [hs]
    | false =>
      have := hnone (by simp [PackageDecl.fieldsOf, ht, hs])
      simpa [this, hs] using eq_comm

theorem recover_eq_some_iff {filename : Text} {r : Report Command} {c : Command} :
    (recover filename r).outcome = .ok (some c) ↔ r.outcome = .ok c := by
  unfold recover
  split <;> simp_all

theorem recover_eq_error_iff {filename : Text} {r : Report Command} :
    (recover filename r).outcome = .error e ↔ r.outcome = .error e ∧
      (∀ name fault, e ≠ .type name fault) ∧ ∀ filename fault, e ≠ .source filename fault := by
  unfold recover
  constructor
  · intro h
    split at h
    · cases h
    · cases h
    · cases h
    · next d hs ht hd =>
      obtain rfl := Except.error.inj h
      exact ⟨hd, ht, hs⟩
  · rintro ⟨h, ht, hs⟩
    rw [h]
    split
    · next he => cases he
    · next he => exact absurd (Except.error.inj he) (hs _ _)
    · next he => exact absurd (Except.error.inj he) (ht _ _)
    · next he => rw [Except.error.inj he]

theorem not_recovered_of_fault (h : FieldFault key field e) :
    (∀ name fault, e ≠ .type name fault) ∧ ∀ filename fault, e ≠ .source filename fault := by
  obtain ⟨-, _, -, h⟩ := h
  cases h <;> simp

theorem find_eq_error_iff {declarations : Report PackageDecl} {filename : Text}
    (h : declarations.outcome = .ok package) :
    (find declarations filename typeName key).outcome = .error e ↔
      (ofType package typeName key).outcome = .error e := by
  unfold find
  rw [recover_eq_error_iff, load_eq_error_iff h]
  constructor
  · rintro ⟨⟨-, rfl⟩ | ⟨t, -, -, rfl⟩ | h, ht, -⟩
    · exact absurd rfl (ht _ _)
    · exact absurd rfl (ht _ _)
    · exact h
  · intro h
    obtain ⟨before, field, after, -, -, hf⟩ := ofType_eq_error_iff.mp h
    exact ⟨.inr (.inr h), not_recovered_of_fault hf⟩

/-- A command is compiled unless one of its fields is faulty, and the first faulty field fails it.
Loading also fails where the struct is missing, and finding does not. -/
theorem compilation_fails_iff_fault (package : PackageDecl) (typeName key : Text) :
    ((∃ c, (ofType package typeName key).outcome = .ok c) ↔
      ∀ field ∈ package.fieldsOf typeName, ∀ e, ¬ FieldFault key field e) ∧
    (∀ e, (ofType package typeName key).outcome = .error e ↔ ∃ before field after,
      package.fieldsOf typeName = before ++ field :: after ∧
        (∀ f ∈ before, ∀ e, ¬ FieldFault key f e) ∧ FieldFault key field e) ∧
    ∀ (declarations : Report PackageDecl) (filename : Text), declarations.outcome = .ok package →
      (∀ e, (load declarations filename typeName key).outcome = .error e ↔
        (package.findType typeName = none ∧ e = .type typeName (.missing filename)) ∨
        (∃ t, package.findType typeName = some t ∧ t.isStruct = false ∧
          e = .type typeName (.notStruct filename t.kind)) ∨
        (ofType package typeName key).outcome = .error e) ∧
      ∀ e, (find declarations filename typeName key).outcome = .error e ↔
        (ofType package typeName key).outcome = .error e :=
  ⟨exists_ofType_iff, fun _ => ofType_eq_error_iff, fun _ _ h =>
    ⟨fun _ => load_eq_error_iff h, fun _ => find_eq_error_iff h⟩⟩

/-- An escape of a number that needs 32 bits fails the compilation. -/
theorem not_always_compiled : ¬ ∀ (package : PackageDecl) (typeName key : Text),
    ∃ c, (ofType package typeName key).outcome = .ok c := by
  intro h
  obtain ⟨c, hc⟩ := h {
    name := "p"
    doc := "Package p copies."
    types := [{
      name := "T"
      kind := structKind
      fields := some [{ names := ["A"], tag := some "\"\\UFFFFFFFF\"", type := "int" }] }] }
    "T" "cliche"
  cases hc

end Command

end StructCli
