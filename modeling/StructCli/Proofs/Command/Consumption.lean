import StructCli.Proofs.Command.Fault
import StructCli.Proofs.Console.Markup
import StructCli.Proofs.Directive.RoundTrip
import StructCli.Shell.Run

/-! # Consumption of compiled commands

Whatever way a command was compiled, the tag of each input can be read again. What is read can be
written within the limit on digits, and the written form is read as the same binding, so that a
table of the inputs shows what their tags say.
-/

namespace StructCli

open Text

theorem Numeral.write_of_lt {n : Nat} (h : n < 10 ^ digitLimit) : write n = .ok (Text.ofNat n) :=
  if_pos ((length_ofNat_le_iff (by decide)).mpr h)

namespace ArgSpec

variable {a : ArgSpec}

theorem WellFormed.write_eq (h : a.WellFormed) : a.write = .ok a.render := by
  have hs := Numeral.write_of_lt h.start_lt
  unfold write render
  cases hr : a.isRange with
  | false => simp [hs, pure, Except.pure]
  | true =>
    cases he : a.stop with
    | none => by_cases h0 : a.start = 0 <;> simp [h0, hs, pure, Except.pure]
    | some stop =>
      have ht := Numeral.write_of_lt (h.stop_lt stop he)
      simp [hs, ht, pure, Except.pure]

theorem WellFormed.ofTag_render (h : a.WellFormed) :
    ArgSpec.ofTag (some a.render) = pure (some a) := by
  obtain ⟨v, hr, -⟩ := h.exists_value
  have hw : ∀ d ∈ ({ arg := some a } : Binding).directives, d.WellFormed := by
    simpa [Binding.directives, Directive.WellFormed] using h
  have htag : Placement.tagOf [] [] [{ directive := .arg a }] = a.render := by
    simp [Placement.tagOf, Placement.render, Directive.value_eq (d := .arg a) hr,
      Directive.kind, hr]
  rw [← htag]
  exact Binding.argOfTag_tagOf hw (.refl _) (by decide) (by decide)

theorem plain_ofNat (n : Nat) : ∀ c ∈ Text.ofNat n, c ≠ .scalar '\\' ∧ c ≠ .scalar '[' := by
  intro c hc
  constructor
  · exact ne_of_mem_of_not_mem hc (not_mem_ofNat rfl n)
  · exact ne_of_mem_of_not_mem hc (not_mem_ofNat rfl n)

theorem tagLength?_of_digit {c : CodePoint} (h : c.isAsciiDigit = true) (r : Text) :
    Markup.tagLength? (c :: r) = none := by
  have hc : Markup.opensTag c = false := by
    have := Numeral.isAsciiDigit_iff.mp h
    simp only [Markup.opensTag, Bool.or_eq_false_iff, Bool.and_eq_false_iff,
      decide_eq_false_iff_not]
    refine ⟨⟨⟨?_, ?_⟩, ?_⟩, ?_⟩
    · omega
    · rintro rfl; exact absurd h (by decide)
    · rintro rfl; exact absurd h (by decide)
    · rintro rfl; exact absurd h (by decide)
  rw [Markup.tagLength?, hc]
  rfl

theorem literal_bracket (n : Nat) {t : Text} (h : Markup.Literal t) :
    Markup.Literal (.scalar '[' :: (Text.ofNat n ++ t)) := by
  refine ⟨by decide, fun _ => ?_, h.append_left (plain_ofNat n)⟩
  obtain ⟨c, r, hn⟩ := List.exists_cons_of_ne_nil
    (Numeral.isUnsigned_iff.mp (Numeral.isUnsigned_ofNat n)).1
  have hc : c.isAsciiDigit = true :=
    Numeral.isAsciiDigit_of_mem_ofNat (n := n) (hn ▸ List.mem_cons_self)
  rw [hn]
  exact tagLength?_of_digit hc (r ++ t)

theorem literal_render (a : ArgSpec) : Markup.Literal a.render := by
  have harg : ∀ c ∈ ofString "arg:", c ≠ .scalar '\\' ∧ c ≠ .scalar '[' := by decide
  have hclose : Markup.Literal (ofString "]") := Markup.literal_of_forall (by decide)
  have hrest : Markup.Literal (ofString ":]") := Markup.literal_of_forall (by decide)
  unfold render
  split
  · exact (Markup.literal_of_forall (plain_ofNat a.start)).append_left harg
  · split
    · next stop _ =>
      have hstop : Markup.Literal (ofString ":" ++ (Text.ofNat stop ++ ofString "]")) :=
        (hclose.append_left (plain_ofNat stop)).append_left (by decide)
      simpa [ofString] using (literal_bracket a.start hstop).append_left harg
    · split
      · exact ⟨by decide, by decide, by decide, by decide, by decide, by decide, by decide,
          by decide, by decide, fun _ => rfl, hrest⟩
      · simpa [ofString] using (literal_bracket a.start hrest).append_left harg

end ArgSpec

namespace FlagSpec

variable {f : FlagSpec}

theorem WellFormed.ofTag_render (h : f.WellFormed) :
    FlagSpec.ofTag (some f.render) = pure (some f) := by
  obtain ⟨v, hr, -⟩ := h.exists_value
  have hw : ∀ d ∈ ({ flag := some f } : Binding).directives, d.WellFormed := by
    simpa [Binding.directives, Directive.WellFormed] using h
  have htag : Placement.tagOf [] [] [{ directive := .flag f }] = f.render := by
    simp [Placement.tagOf, Placement.render, Directive.value_eq (d := .flag f) hr,
      Directive.kind, hr]
  rw [← htag]
  exact Binding.flagOfTag_tagOf hw (.refl _) (by decide) (by decide)

theorem WellFormed.literal_render (h : f.WellFormed) : Markup.Literal f.render := by
  have hplain : ∀ c, isNameChar c = true → c ≠ .scalar '\\' ∧ c ≠ .scalar '[' := by
    intro c hc
    constructor <;> rintro rfl <;> exact absurd hc (by decide)
  have hflag : ∀ c ∈ ofString "flag:", c ≠ .scalar '\\' ∧ c ≠ .scalar '[' := by decide
  have hlong : ∀ c ∈ f.long, c ≠ .scalar '\\' ∧ c ≠ .scalar '[' := fun c hc =>
    hplain c (h.long.forall_isNameChar c hc)
  have hshort : Markup.Literal (ofString "," ++ f.short) := by
    refine Markup.Literal.append_left (by decide) (Markup.literal_of_forall fun c hc => ?_)
    rcases h.short with hn | ⟨d, hd, hl⟩
    · rw [hn] at hc
      exact absurd hc List.not_mem_nil
    · obtain rfl : c = d := by simpa [hd] using hc
      exact hplain c (by simp [isNameChar, hl])
  unfold render
  split
  · simpa [List.append_assoc] using (hshort.append_left hlong).append_left hflag
  · exact (Markup.literal_of_forall hlong).append_left hflag

end FlagSpec

namespace Command

variable {key name tag : Text} {literal : Option Text} {fields : List FieldDecl}
  {inputs : List CommandInput} {input : CommandInput}

/-- A tag that was kept can be read: it is empty, or was read when it was found. -/
theorem exists_outcome_of_tagOfLiteral (h : (tagOfLiteral name literal key).outcome = .ok tag) :
    ∃ a, (ArgSpec.ofTag (some tag)).outcome = .ok a := by
  have hempty : ∃ a, (ArgSpec.ofTag (some [])).outcome = .ok a := ⟨none, rfl⟩
  cases literal with
  | none =>
    obtain rfl : [] = tag := Except.ok.inj h
    exact hempty
  | some literal =>
    cases hu : Go.Literal.unquote literal with
    | error d =>
      by_cases hd : d = .overflow
      · rw [tagOfLiteral_of_overflow (hd ▸ hu)] at h
        cases h
      · rw [tagOfLiteral_of_unreadable hu hd] at h
        obtain rfl : [] = tag := Except.ok.inj h
        exact hempty
    | ok structTag =>
      cases hl : Go.StructTag.lookup structTag key with
      | error d =>
        rw [tagOfLiteral_of_lookup_error hu hl] at h
        cases h
      | ok value =>
        cases value with
        | none =>
          rw [tagOfLiteral_of_no_value hu hl] at h
          obtain rfl : [] = tag := Except.ok.inj h
          exact hempty
        | some value =>
          rw [tagOfLiteral_of_value hu hl] at h
          obtain ⟨a, ha, h⟩ := bind_eq_ok_iff.mp h
          obtain rfl : value = tag := Except.ok.inj h
          exact ⟨a, ha⟩

theorem exists_outcome_of_inputOfField {field : FieldDecl}
    (h : (inputOfField key field).outcome = .ok (some input)) :
    ∃ a, (ArgSpec.ofTag (some input.tag)).outcome = .ok a := by
  cases hx : field.exported with
  | false =>
    rw [inputOfField_of_not_exported hx] at h
    cases h
  | true =>
    obtain ⟨name, hn⟩ := FieldDecl.names_of_exported hx
    rw [inputOfField_of_exported hx hn] at h
    obtain ⟨tag, ht, h⟩ := bind_eq_ok_iff.mp h
    obtain rfl := Option.some.inj (Except.ok.inj h)
    exact exists_outcome_of_tagOfLiteral ht

theorem exists_outcome_of_inputsOfFields (h : (inputsOfFields key fields).outcome = .ok inputs) :
    ∀ i ∈ inputs, ∃ a, (ArgSpec.ofTag (some i.tag)).outcome = .ok a := by
  induction fields generalizing inputs with
  | nil =>
    obtain rfl : [] = inputs := Except.ok.inj h
    exact fun _ hi => absurd hi List.not_mem_nil
  | cons field fields ih =>
    rw [inputsOfFields_cons] at h
    obtain ⟨input, hi, h⟩ := bind_eq_ok_iff.mp h
    obtain ⟨rest, hr, h⟩ := bind_eq_ok_iff.mp h
    obtain rfl : input.toList ++ rest = inputs := Except.ok.inj h
    intro i hmem
    rcases List.mem_append.mp hmem with hmem | hmem
    · obtain rfl := Option.mem_toList.mp hmem
      exact exists_outcome_of_inputOfField hi
    · exact ih hr i hmem

/-- The ways in which a command is compiled. -/
inductive Compiled : Command → Prop where

  | ofType {c : Command} (package : PackageDecl) (typeName key : Text) :
      (ofType package typeName key).outcome = .ok c → Compiled c

  | load {c : Command} (declarations : Report PackageDecl) (filename typeName key : Text) :
      (load declarations filename typeName key).outcome = .ok c → Compiled c

  | find {c : Command} (declarations : Report PackageDecl) (filename typeName key : Text) :
      (find declarations filename typeName key).outcome = .ok (some c) → Compiled c

  | loadSource {c : Command} (parser : DeclarationParser) (source : Source)
      (filename typeName key : Text) :
      (loadSource parser source filename typeName key).outcome = .ok c → Compiled c

  | findSource {c : Command} (parser : DeclarationParser) (source : Source)
      (filename typeName key : Text) :
      (findSource parser source filename typeName key).outcome = .ok (some c) → Compiled c

  | ofFile {c : Command} (read : FileReader) (path : Path) (shown typeName : Text)
      (language : Option Text) (key : Text) (parse : Go.TreeParser) :
      (ofFile read path shown typeName language key parse).outcome = .ok (some c) → Compiled c

theorem exists_ofType_of_load {declarations : Report PackageDecl} {filename typeName : Text}
    {c : Command} (h : (load declarations filename typeName key).outcome = .ok c) :
    ∃ package, (ofType package typeName key).outcome = .ok c := by
  rw [load, Report.outcome_bind] at h
  obtain ⟨package, -, h⟩ := bind_eq_ok_iff.mp h
  split at h
  · cases h
  · split at h
    · exact ⟨package, h⟩
    · cases h

theorem exists_ofType_of_loadSource {parser : DeclarationParser} {source : Source}
    {filename typeName : Text} {c : Command}
    (h : (loadSource parser source filename typeName key).outcome = .ok c) :
    ∃ package, (ofType package typeName key).outcome = .ok c := by
  rw [loadSource, Report.outcome_bind] at h
  obtain ⟨bytes, -, h⟩ := bind_eq_ok_iff.mp h
  exact exists_ofType_of_load h

theorem Compiled.exists_ofType {c : Command} (h : Compiled c) :
    ∃ package typeName key, (Command.ofType package typeName key).outcome = .ok c := by
  cases h with
  | ofType package typeName key h => exact ⟨package, typeName, key, h⟩
  | load declarations filename typeName key h =>
    obtain ⟨package, h⟩ := exists_ofType_of_load h
    exact ⟨package, typeName, key, h⟩
  | find declarations filename typeName key h =>
    obtain ⟨package, h⟩ := exists_ofType_of_load (recover_eq_some_iff.mp h)
    exact ⟨package, typeName, key, h⟩
  | loadSource parser source filename typeName key h =>
    obtain ⟨package, h⟩ := exists_ofType_of_loadSource h
    exact ⟨package, typeName, key, h⟩
  | findSource parser source filename typeName key h =>
    obtain ⟨package, h⟩ := exists_ofType_of_loadSource (recover_eq_some_iff.mp h)
    exact ⟨package, typeName, key, h⟩
  | ofFile read path shown typeName language key parse h =>
    rw [Command.ofFile, Report.outcome_bind] at h
    obtain ⟨_, -, h⟩ := bind_eq_ok_iff.mp h
    split at h
    · cases h
    · split at h
      · cases h
      · obtain ⟨package, h⟩ := exists_ofType_of_loadSource (recover_eq_some_iff.mp h)
        exact ⟨package, typeName, key, h⟩

theorem Compiled.exists_outcome {c : Command} (h : Compiled c) :
    ∀ i ∈ c.inputs, ∃ a, (ArgSpec.ofTag (some i.tag)).outcome = .ok a := by
  obtain ⟨package, typeName, key, h⟩ := h.exists_ofType
  obtain ⟨f, hf, hc⟩ := exists_ofType_eq package typeName key
  rw [hc] at h
  obtain ⟨inputs, hi, h⟩ := bind_eq_ok_iff.mp h
  obtain rfl := Except.ok.inj h
  rw [hf]
  exact exists_outcome_of_inputsOfFields hi

end Command

namespace Shell

variable {console : Console} {i : CommandInput} {arg : Option ArgSpec} {flag : Option FlagSpec}

theorem written_write (hw : ∀ a ∈ arg, a.write = .ok a.render) :
    written ArgSpec.write arg = pure (arg.elim [] ArgSpec.render) := by
  cases arg with
  | none => rfl
  | some a =>
    rw [written, hw a rfl]
    rfl

theorem inputRow_outcome (ha : (ArgSpec.ofTag (some i.tag)).outcome = .ok arg)
    (hf : (FlagSpec.ofTag (some i.tag)).outcome = .ok flag)
    (hw : ∀ a ∈ arg, a.write = .ok a.render) :
    (inputRow console i).outcome = .ok ([i.fieldName, i.type, arg.elim [] ArgSpec.render,
      flag.elim [] FlagSpec.render, (defaultOfTag (some i.tag)).getD [], i.doc].map
        console.cell) := by
  simp [inputRow, ha, hf, written_write hw]

theorem exists_inputRows {is : List CommandInput}
    (h : ∀ i ∈ is, ∃ row, (inputRow console i).outcome = .ok row) :
    ∃ rows, (inputRows console is).outcome = .ok rows := by
  induction is with
  | nil => exact ⟨[], rfl⟩
  | cons i is ih =>
    obtain ⟨⟨row, hi⟩, his⟩ := List.forall_mem_cons.mp h
    obtain ⟨rows, hr⟩ := ih his
    exact ⟨row :: rows, by simp [inputRows, hi, hr]⟩

theorem exists_commandLines {c : Command}
    (h : ∀ i ∈ c.inputs, ∃ row, (inputRow console i).outcome = .ok row) :
    ∃ lines, (commandLines console c).outcome = .ok lines := by
  obtain ⟨rows, hr⟩ := exists_inputRows h
  simp [commandLines, hr]

theorem cell_written (hw : ∀ f ∈ flag, f.WellFormed) :
    Console.terminal.cell (arg.elim [] ArgSpec.render) = arg.elim [] ArgSpec.render ∧
      Console.terminal.cell (flag.elim [] FlagSpec.render) = flag.elim [] FlagSpec.render := by
  constructor
  · cases arg with
    | none => rfl
    | some a => exact Markup.shown_escape_of_literal a.literal_render
  · cases flag with
    | none => rfl
    | some f => exact Markup.shown_escape_of_literal (hw f rfl).literal_render

end Shell

open Shell

/-- The tag of the input can be read. What is read can be written and read again, and goes to the
row of the input on every console; a terminal shows it as it is written. -/
def CommandInput.Consumable (i : CommandInput) : Prop :=
  ∃ arg flag, (ArgSpec.ofTag (some i.tag)).outcome = .ok arg ∧
    (FlagSpec.ofTag (some i.tag)).outcome = .ok flag ∧
    (∀ a ∈ arg, a.write = .ok a.render ∧ ArgSpec.ofTag (some a.render) = pure (some a)) ∧
    (∀ f ∈ flag, FlagSpec.ofTag (some f.render) = pure (some f)) ∧
    (∀ console, (inputRow console i).outcome = .ok ([i.fieldName, i.type,
      arg.elim [] ArgSpec.render, flag.elim [] FlagSpec.render,
      (defaultOfTag (some i.tag)).getD [], i.doc].map console.cell)) ∧
    Console.terminal.cell (arg.elim [] ArgSpec.render) = arg.elim [] ArgSpec.render ∧
    Console.terminal.cell (flag.elim [] FlagSpec.render) = flag.elim [] FlagSpec.render

theorem CommandInput.consumable_of_outcome {i : CommandInput} {arg : Option ArgSpec}
    (ha : (ArgSpec.ofTag (some i.tag)).outcome = .ok arg) : i.Consumable := by
  obtain ⟨flag, hf⟩ := FlagSpec.exists_outcome_ofTag (some i.tag)
  have hwa : ∀ a ∈ arg, a.WellFormed := by
    rintro a rfl
    exact (ArgSpec.ofValue_eq_ok_iff.mp (readDirective_outcome_eq_some ha)).wellFormed
  have hwf : ∀ f ∈ flag, f.WellFormed := by
    rintro f rfl
    exact (FlagSpec.ofValue_eq_ok_iff.mp (readDirective_outcome_eq_some hf)).wellFormed
  refine ⟨arg, flag, ha, hf, fun a h => ⟨(hwa a h).write_eq, (hwa a h).ofTag_render⟩,
    fun f h => (hwf f h).ofTag_render, fun console => ?_, cell_written hwf⟩
  exact inputRow_outcome ha hf fun a h => (hwa a h).write_eq

/-- Every input of a compiled command can be consumed, and so can the command as a whole: its table
is always drawn. -/
theorem Command.consumable_of_compiled {c : Command} (h : c.Compiled) :
    (∀ i ∈ c.inputs, i.Consumable) ∧
      ∀ console, ∃ lines, (commandLines console c).outcome = .ok lines := by
  have hi : ∀ i ∈ c.inputs, i.Consumable := fun i hi => by
    obtain ⟨arg, ha⟩ := h.exists_outcome i hi
    exact CommandInput.consumable_of_outcome ha
  refine ⟨hi, fun console => exists_commandLines fun i hmem => ?_⟩
  obtain ⟨arg, flag, -, -, -, -, hrow, -⟩ := hi i hmem
  exact ⟨_, hrow console⟩

/-- A tag with a range and a flag in it. -/
theorem Command.consumable_names :
    let input : CommandInput :=
      { fieldName := "Names", tag := "arg: [1:] ;flag:name, n", type := "[]string" }
    let c : Command := {
      name := "p", package := "p", type := "T", help := "p copies.", inputs := [input] }
    c.Compiled ∧ input.Consumable := by
  intro input c
  let field : FieldDecl := {
    names := ["Names"]
    tag := some "`cliche:\"arg: [1:] ;flag:name, n\"`"
    type := "[]string" }
  have h : c.Compiled := .ofType {
    name := "p"
    doc := "Package p copies."
    types := [{ name := "T", kind := structKind, fields := some [field] }] } "T" "cliche" rfl
  exact ⟨h, (consumable_of_compiled h).1 input List.mem_cons_self⟩

end StructCli
