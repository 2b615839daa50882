import StructCli.Command.Basic
import StructCli.Proofs.Directive.Limit
import StructCli.Proofs.Go.Lookup

/-! # The inputs of fields

The outcome of a field is that of its tag, and the outcome of several fields is the failure of the
first that fails, or the inputs of all.
-/

namespace StructCli

variable {key name literal structTag value : Text} {field : FieldDecl} {fields : List FieldDecl}
  {e : Failure}

theorem FieldDecl.names_of_exported (h : field.exported = true) : ∃ name, field.names = [name] := by
  unfold FieldDecl.exported at h
  split at h
  · next c r hn => exact ⟨c :: r, hn⟩
  · cases h

namespace Command

theorem tagOfLiteral_of_unreadable {d : Go.LiteralError}
    (h : Go.Literal.unquote literal = .error d) (hd : d ≠ .overflow) :
    (tagOfLiteral name (some literal) key).outcome = .ok [] := by
  cases d <;> simp_all [tagOfLiteral]

theorem tagOfLiteral_of_overflow (h : Go.Literal.unquote literal = .error .overflow) :
    (tagOfLiteral name (some literal) key).outcome = .error (.literal .overflow) := by
  simp [tagOfLiteral, h]

theorem tagOfLiteral_of_lookup_error {d : Go.LiteralError}
    (h : Go.Literal.unquote literal = .ok structTag)
    (hl : Go.StructTag.lookup structTag key = .error d) :
    (tagOfLiteral name (some literal) key).outcome = .error (.literal d) := by
  simp [tagOfLiteral, h, hl]

theorem tagOfLiteral_of_no_value (h : Go.Literal.unquote literal = .ok structTag)
    (hl : Go.StructTag.lookup structTag key = .ok none) :
    (tagOfLiteral name (some literal) key).outcome = .ok [] := by
  simp [tagOfLiteral, h, hl]

theorem tagOfLiteral_of_value (h : Go.Literal.unquote literal = .ok structTag)
    (hl : Go.StructTag.lookup structTag key = .ok (some value)) :
    (tagOfLiteral name (some literal) key).outcome =
      (ArgSpec.ofTag (some value)).outcome >>= fun _ => .ok value := by
  obtain ⟨f, hf⟩ := FlagSpec.exists_outcome_ofTag (some value)
  simp [tagOfLiteral, h, hl, hf]

theorem inputOfField_of_exported (h : field.exported = true) (hn : field.names = [name]) :
    (inputOfField key field).outcome = (tagOfLiteral name field.tag key).outcome >>= fun tag =>
      .ok (some { fieldName := name, tag, doc := field.doc, type := field.type }) := by
  simp only [inputOfField, hn, h, if_true, inputOfExported, Report.outcome_bind,
    Report.outcome_note, Report.outcome_pure, ok_bind]
  cases (tagOfLiteral name field.tag key).outcome <;> rfl

theorem inputOfField_of_not_exported (h : field.exported = false) :
    (inputOfField key field).outcome = .ok none := by
  unfold inputOfField
  split <;> simp [h]

theorem inputsOfFields_cons (key : Text) (field : FieldDecl) (fields : List FieldDecl) :
    (inputsOfFields key (field :: fields)).outcome = (inputOfField key field).outcome >>=
      fun input => (inputsOfFields key fields).outcome >>= fun inputs =>
        .ok (input.toList ++ inputs) := by
  simp only [inputsOfFields, Report.outcome_bind, Report.outcome_pure]

theorem inputsOfFields_append (key : Text) (before after : List FieldDecl) :
    (inputsOfFields key (before ++ after)).outcome = (inputsOfFields key before).outcome >>=
      fun xs => (inputsOfFields key after).outcome >>= fun ys => .ok (xs ++ ys) := by
  induction before with
  | nil => cases h : (inputsOfFields key after).outcome <;> simp [inputsOfFields, h]
  | cons field before ih =>
    rw [List.cons_append, inputsOfFields_cons, inputsOfFields_cons, ih]
    cases (inputOfField key field).outcome with
    | error e => rfl
    | ok input =>
      cases (inputsOfFields key before).outcome with
      | error e => rfl
      | ok xs => cases (inputsOfFields key after).outcome <;> simp

theorem exists_inputsOfFields_iff :
    (∃ inputs, (inputsOfFields key fields).outcome = .ok inputs) ↔
      ∀ field ∈ fields, ∃ input, (inputOfField key field).outcome = .ok input := by
  induction fields with
  | nil => simp [inputsOfFields]
  | cons field fields ih =>
    rw [inputsOfFields_cons, List.forall_mem_cons, ← ih]
    cases (inputOfField key field).outcome with
    | error e => simp
    | ok input => cases (inputsOfFields key fields).outcome <;> simp

theorem inputsOfFields_eq_error_iff : (inputsOfFields key fields).outcome = .error e ↔
    ∃ before field after, fields = before ++ field :: after ∧
      (∀ f ∈ before, ∃ input, (inputOfField key f).outcome = .ok input) ∧
      (inputOfField key field).outcome = .error e := by
  constructor
  · induction fields with
    | nil =>
      intro h
      cases h
    | cons field fields ih =>
      rw [inputsOfFields_cons, bind_eq_error_iff]
      rintro (h | ⟨input, hi, h⟩)
      · exact ⟨[], field, fields, rfl, by simp, h⟩
      · rcases bind_eq_error_iff.mp h with h | ⟨inputs, -, h⟩
        · obtain ⟨before, f, after, rfl, hb, he⟩ := ih h
          exact ⟨field :: before, f, after, rfl, List.forall_mem_cons.mpr ⟨⟨input, hi⟩, hb⟩, he⟩
        · cases h
  · rintro ⟨before, field, after, rfl, hb, he⟩
    obtain ⟨xs, hx⟩ := exists_inputsOfFields_iff.mpr hb
    rw [inputsOfFields_append, hx, ok_bind, inputsOfFields_cons, he, error_bind, error_bind]

end Command

end StructCli
