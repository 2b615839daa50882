import StructCli.Proofs.Go.Outline
import StructCli.Proofs.Go.Sketch

/-! # Layouts of outlines

The source of an outline as a sketch: its phrases and tokens, and the labels of their parts. The
text of the sketch is the source.
-/

namespace StructCli.Go.Outline

open Sketch

/-- A phrase on lines of its own, with its doc above it and perhaps a gap above that. -/
structure Entry where
  gap : Text := []
  doc : DocLines
  kind : Text
  parts : List Sketch

def commentSketch (indent : Indent) (line : Text) : List Sketch :=
  [.blank indent.text, .token none "comment" true (lineComment line), .blank "\n"]

def DocLines.sketch (indent : Indent) (doc : DocLines) : List Sketch :=
  doc.lines.flatMap (commentSketch indent)

def Entry.sketch (indent : Indent) (e : Entry) : List Sketch :=
  .blank e.gap :: (e.doc.sketch indent ++
    [.blank indent.text, .phrase none e.kind e.parts, .lineEnd])

/-- A token that is spelled as its kind. -/
def sign (spelling : Text) : Sketch := .token none spelling false spelling

def fieldName (name : Text) : Sketch := .token (some "name") "field_identifier" true name

def namesSketch : List Text → List Sketch
  | [] => []
  | name :: names =>
    fieldName name :: (names.flatMap fun n => [sign ",", .blank " ", fieldName n]) ++ [.blank " "]

def TypeName.baseKind (type : TypeName) : Text :=
  if type.package.isSome then "qualified_type" else "type_identifier"

def TypeName.kind (type : TypeName) : Text :=
  if type.pointer then "pointer_type" else type.baseKind

/-- The star of an embedded pointer is no part of a type. -/
def Field.typeSketch (f : Field) : List Sketch :=
  if f.names.isEmpty && f.type.pointer then
    [sign "*", .token (some "type") f.type.baseKind true f.type.base]
  else [.token (some "type") f.type.kind true f.type.source]

def tagSketch : Option Text → List Sketch
  | none => []
  | some tag => [.blank " ", .token (some "tag") "raw_string_literal" true (tagSource tag)]

def Field.entry (f : Field) : Entry where
  doc := f.doc
  kind := "field_declaration"
  parts := namesSketch f.names ++ (f.typeSketch ++ tagSketch f.tag)

def Struct.fieldList (inner outer : Indent) (s : Struct) : List Sketch :=
  sign "\x7b" :: .blank "\n" :: ((s.fields.map Field.entry).flatMap (Entry.sketch inner) ++
    [.blank outer.text, sign "\x7d"])

def Struct.sketch (inner outer : Indent) (s : Struct) : List Sketch :=
  [.token (some "name") "type_identifier" true s.name, .blank " ",
    .phrase (some "type") structKind
      [sign "struct", .blank " ",
        .phrase none "field_declaration_list" (s.fieldList inner outer)]]

def Struct.entry (indent : Indent) (s : Struct) : Entry where
  doc := s.doc
  kind := "type_spec"
  parts := s.sketch indent.twice indent

def Declaration.sketch (indent : Indent) : Declaration → List Sketch
  | single s => [sign "type", .blank " ", .phrase none "type_spec" (s.sketch indent .flush)]
  | group types =>
    sign "type" :: .blank " " :: sign "(" :: .blank "\n" ::
      ((types.map (Struct.entry indent)).flatMap (Entry.sketch indent) ++ [sign ")"])

def Declaration.entry (indent : Indent) (d : Declaration) : Entry where
  gap := "\n"
  doc := d.doc
  kind := "type_declaration"
  parts := d.sketch indent

def Package.clause (p : Package) : Entry where
  doc := p.doc
  kind := "package_clause"
  parts := [sign "package", .blank " ", .token none "package_identifier" true p.name]

def Package.sketch (indent : Indent) (p : Package) : List Sketch :=
  (p.clause :: p.declarations.map (Declaration.entry indent)).flatMap (Entry.sketch .flush)

/-! ## Texts of sketches -/

theorem DocLines.texts_sketch (doc : DocLines) (indent : Indent) :
    texts (doc.sketch indent) = doc.source indent := by
  rw [sketch, texts_flatMap, source]
  simp [commentSketch, texts, Sketch.text]

theorem Entry.texts_sketch (e : Entry) (indent : Indent) : texts (e.sketch indent) =
    e.gap ++ (e.doc.source indent ++ (indent.text ++ (texts e.parts ++ "\n"))) := by
  simp [sketch, texts, Sketch.text, DocLines.texts_sketch]

theorem texts_namesSketch (names : List Text) : texts (namesSketch names) = namesSource names := by
  cases names with
  | nil => rfl
  | cons name names =>
    have h : ∀ n, texts [sign ",", .blank " ", fieldName n] = (", " ++ n : Text) := fun n => by
      simp [texts, Sketch.text, sign, fieldName, Text.ofString]
    rw [namesSketch, namesSource, texts_append, texts, texts_flatMap]
    simp only [h]
    simp [texts, Sketch.text, fieldName]

theorem Field.texts_typeSketch (f : Field) : texts f.typeSketch = f.type.source := by
  unfold typeSketch
  split
  · next h =>
    simp only [Bool.and_eq_true] at h
    simp [texts, Sketch.text, sign, TypeName.source, h.2, Text.ofString]
  · simp [texts, Sketch.text]

theorem Field.texts_entry (f : Field) : texts f.entry.parts = f.line := by
  rw [entry, texts_append, texts_append, texts_namesSketch, texts_typeSketch, line,
    List.append_assoc]
  cases f.tag with
  | none => rfl
  | some tag => simp [tagSketch, texts, Sketch.text, Text.ofString]

@[simp] theorem Indent.text_flush : flush.text = [] := rfl

theorem Struct.texts_sketch (s : Struct) (inner outer : Indent) :
    texts (s.sketch inner outer) = s.source inner outer := by
  have hfield : ∀ f : Field, texts (f.entry.sketch inner) = f.source inner := fun f => by
    rw [Entry.texts_sketch, Field.texts_entry]
    simp [Field.entry, Field.source]
  have h : texts ((s.fields.map Field.entry).flatMap (Entry.sketch inner)) =
      s.fields.flatMap (Field.source inner) := by
    rw [texts_flatMap, List.flatMap_map]
    simp only [hfield]
  simp [sketch, fieldList, source, texts, h, Sketch.text, sign, Text.ofString]

theorem Declaration.texts_sketch (d : Declaration) (indent : Indent) :
    texts (d.sketch indent) = d.phrase indent := by
  cases d with
  | single s =>
    simp [sketch, phrase, texts, Sketch.text, sign, Struct.texts_sketch, Text.ofString]
  | group types =>
    have hmember : ∀ s : Struct, texts ((s.entry indent).sketch indent) = s.member indent :=
      fun s => by
        rw [Entry.texts_sketch, Struct.entry, Struct.texts_sketch]
        simp [Struct.member]
    have h : texts ((types.map (Struct.entry indent)).flatMap (Entry.sketch indent)) =
        types.flatMap (Struct.member indent) := by
      rw [texts_flatMap, List.flatMap_map]
      simp only [hmember]
    simp [sketch, phrase, texts, Sketch.text, sign, h, Text.ofString]

theorem Package.texts_sketch (p : Package) (indent : Indent) :
    texts (p.sketch indent) = p.source indent := by
  have hdeclaration : ∀ d : Declaration, texts ((d.entry indent).sketch .flush) =
      ("\n" ++ d.source indent : Text) := fun d => by
    rw [Entry.texts_sketch, Declaration.entry, Declaration.texts_sketch]
    simp [Declaration.source]
  have h : texts ((p.declarations.map (Declaration.entry indent)).flatMap (Entry.sketch .flush)) =
      p.declarations.flatMap fun d => ("\n" ++ d.source indent : Text) := by
    rw [texts_flatMap, List.flatMap_map]
    simp only [hdeclaration]
  rw [sketch, List.flatMap_cons, texts_append, h, Entry.texts_sketch]
  simp [source, clause, texts, Sketch.text, sign, Text.ofString]

end StructCli.Go.Outline
