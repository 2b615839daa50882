import StructCli.Proofs.Command.Fields
import StructCli.Proofs.Go.Spelling

/-! # Inputs from written tags

A field whose tag was written as pairs gets the value of the first pair with the key. It does not
matter which literal spells the tag.
-/

namespace StructCli.Command

open Go.StructTag

variable {key name literal literal' : Text} {type : TypeDecl} {field : FieldDecl}
  {before after : List FieldDecl} {entries : List Entry} {spaces : Nat}

theorem tagOfLiteral_of_spelled
    (hspelled : Go.Literal.Spelled (written entries spaces) literal)
    (hnames : ∀ e ∈ entries, Name e.name)
    (hdigits : Numeral.Bounded ((valueOf? entries key).getD [])) :
    (tagOfLiteral name (some literal) key).outcome = .ok ((valueOf? entries key).getD []) := by
  have hl : lookup (written entries spaces) key = .ok (valueOf? entries key) :=
    lookup_written hnames
  cases hv : valueOf? entries key with
  | none =>
    rw [hv] at hl
    exact tagOfLiteral_of_no_value hspelled.unquote_eq hl
  | some value =>
    rw [hv] at hl
    rw [hv, Option.getD_some] at hdigits
    obtain ⟨a, ha⟩ := ArgSpec.exists_outcome_ofTag hdigits
    rw [tagOfLiteral_of_value hspelled.unquote_eq hl, Option.getD_some, ha, ok_bind]

theorem tagOfLiteral_congr (h : Go.Literal.unquote literal = Go.Literal.unquote literal')
    {t : Text} (ht : Go.Literal.unquote literal = .ok t) :
    tagOfLiteral name (some literal) key = tagOfLiteral name (some literal') key := by
  simp only [tagOfLiteral, ← h, ht]

theorem inputsOfFields_congr {field' : FieldDecl}
    (h : inputOfField key field = inputOfField key field') (before after : List FieldDecl) :
    inputsOfFields key (before ++ field :: after) =
      inputsOfFields key (before ++ field' :: after) := by
  induction before with
  | nil => simp only [List.nil_append, inputsOfFields, h]
  | cons f before ih => simp only [List.cons_append, inputsOfFields, ih]

theorem inputOfField_of_spelled (hexported : field.exported = true) (hname : field.names = [name])
    (htag : field.tag = some literal)
    (hspelled : Go.Literal.Spelled (written entries spaces) literal)
    (hnames : ∀ e ∈ entries, Name e.name)
    (hdigits : Numeral.Bounded ((valueOf? entries key).getD [])) :
    (inputOfField key field).outcome = .ok (some
      { fieldName := name, tag := (valueOf? entries key).getD [],
        doc := field.doc, type := field.type }) := by
  rw [inputOfField_of_exported hexported hname, htag,
    tagOfLiteral_of_spelled hspelled hnames hdigits, ok_bind]

theorem inputsOfFields_around {input : CommandInput}
    (h : (inputOfField key field).outcome = .ok (some input)) (before after : List FieldDecl) :
    (inputsOfFields key (before ++ field :: after)).outcome = (do
      let xs ← (inputsOfFields key before).outcome
      let ys ← (inputsOfFields key after).outcome
      return xs ++ input :: ys) := by
  rw [inputsOfFields_append, inputsOfFields_cons, h]
  cases (inputsOfFields key before).outcome with
  | error e => rfl
  | ok xs => cases (inputsOfFields key after).outcome <;> rfl

/-- A tag is compiled to the value that was written, however a literal spells it. -/
theorem inputsOfType_of_spelled_tag (hfields : type.fields = some (before ++ field :: after))
    (hexported : field.exported = true) (hname : field.names = [name])
    (htag : field.tag = some literal)
    (hspelled : Go.Literal.Spelled (written entries spaces) literal)
    (hnames : ∀ e ∈ entries, Name e.name)
    (hdigits : Numeral.Bounded ((valueOf? entries key).getD [])) :
    (inputsOfType key type).outcome = (do
      let xs ← (inputsOfFields key before).outcome
      let ys ← (inputsOfFields key after).outcome
      return xs ++ { fieldName := name, tag := (valueOf? entries key).getD [],
                     doc := field.doc, type := field.type } :: ys) ∧
    ∀ literal', Go.Literal.Spelled (written entries spaces) literal' →
      inputsOfType key
        { type with fields := some (before ++ { field with tag := some literal' } :: after) } =
        inputsOfType key type := by
  constructor
  · unfold inputsOfType
    rw [hfields, Option.getD_some]
    apply inputsOfFields_around
    exact inputOfField_of_spelled hexported hname htag hspelled hnames hdigits
  · intro literal' hspelled'
    have hunquote := hspelled'.unquote_eq
    have hinput : inputOfField key { field with tag := some literal' } =
        inputOfField key field := by
      simp only [inputOfField, hname, FieldDecl.exported, inputOfExported, htag]
      rw [tagOfLiteral_congr (hunquote.trans hspelled.unquote_eq.symm) hunquote]
    unfold inputsOfType
    rw [hfields]
    exact inputsOfFields_congr hinput before after

theorem inputsOfType_size :
    let field : FieldDecl := {
      names := ["Size"]
      tag := some "`json:\"size\"  cliche:\"arg:0\"cliche:\"\"`"
      type := "int" }
    let type : TypeDecl := { name := "T", kind := structKind, fields := some [field] }
    (inputsOfType "cliche" type).outcome =
      .ok [{ fieldName := "Size", tag := "arg:0", type := "int" }] := by
  intro field type
  have hfields : type.fields = some ([] ++ field :: []) := rfl
  have hexported : field.exported = true := by decide
  have hname : field.names = ["Size"] := rfl
  have hspelled : Go.Literal.Spelled
      (written [⟨0, "json", "size"⟩, ⟨2, "cliche", "arg:0"⟩, ⟨0, "cliche", []⟩] 0)
      "`json:\"size\"  cliche:\"arg:0\"cliche:\"\"`" := .raw (by decide) (by decide)
  refine (inputsOfType_of_spelled_tag hfields hexported hname rfl hspelled ?_ ?_).1
  · decide
  · exact Numeral.bounded_of_length_le (by decide)

end StructCli.Command
