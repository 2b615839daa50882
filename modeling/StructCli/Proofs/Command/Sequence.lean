import StructCli.Proofs.Command.Fault

/-! # Fields in a row

The fields of a struct are compiled one by one. Each gives its own notices and at most one input,
whatever stands around it, and the report of several fields is made of these in their order. The
first faulty field ends the compilation.
-/

namespace StructCli

/-- The notices that say what becomes of a field. -/
def Notice.decidesField : Notice → Bool
  | fieldNameless _ | fieldManyNames _ | fieldUnexported _ | fieldCompiling _ => true
  | _ => false

namespace Report

variable {α β : Type} {r : Report α} {f : α → Report β}

/-- How two reports of lists make the report of both in a row. The first failure ends it, after
the notices that were left before. -/
structure Concatenates (first second both : Report (List α)) : Prop where
  values : ∀ xs ys, first.outcome = .ok xs → second.outcome = .ok ys →
    both = ⟨first.notices ++ second.notices, .ok (xs ++ ys)⟩
  first_fails : ∀ e, first.outcome = .error e → both = first
  second_fails : ∀ xs e, first.outcome = .ok xs → second.outcome = .error e →
    both = ⟨first.notices ++ second.notices, .error e⟩

theorem concatenates_bind (first second : Report (List α)) :
    Concatenates first second (first >>= fun xs => second >>= fun ys => pure (xs ++ ys)) where
  values xs ys hx hy := by
    rw [bind_of_ok hx, bind_of_ok hy]
    exact congrArg (fun ns => Report.mk (first.notices ++ ns) _) (List.append_nil _)
  first_fails e he := by
    rw [bind_of_error he, ← he]
  second_fails xs e hx he := by
    rw [bind_of_ok hx, bind_of_error he]

/-- Nothing that was noticed says what becomes of a field. -/
def Undeciding (r : Report α) : Prop := ∀ n ∈ r.notices, n.decidesField = false

theorem undeciding_pure (a : α) : Undeciding (pure a) := fun _ h => absurd h List.not_mem_nil

theorem undeciding_fail (e : Failure) : Undeciding (fail e : Report α) :=
  fun _ h => absurd h List.not_mem_nil

theorem undeciding_note {n : Notice} (h : n.decidesField = false) : Undeciding (note n) := by
  intro m hm
  rwa [List.mem_singleton.mp hm]

theorem Undeciding.bind (h : Undeciding r) (hf : ∀ a, Undeciding (f a)) :
    Undeciding (r >>= f) := by
  cases hr : r.outcome with
  | error e =>
    rw [bind_of_error hr]
    exact h
  | ok a =>
    rw [bind_of_ok hr]
    intro n hn
    rcases List.mem_append.mp hn with hn | hn
    · exact h n hn
    · exact hf a n hn

theorem Undeciding.filter_eq_nil (h : Undeciding r) :
    r.notices.filter Notice.decidesField = [] := by
  rw [List.filter_eq_nil_iff]
  intro n hn
  rw [h n hn]
  exact Bool.false_ne_true

end Report

open Report

theorem undeciding_readDirective {α : Type} (k : DirectiveKind)
    (ofValue : Text → Except DirectiveError α) (tag : Option Text) :
    Undeciding (readDirective k ofValue tag) := by
  unfold readDirective
  dsimp only
  split
  · split
    · exact (undeciding_note rfl).bind fun _ => undeciding_pure _
    · exact undeciding_pure _
  · split
    · exact undeciding_pure _
    · exact (undeciding_note rfl).bind fun _ => undeciding_pure _
    · exact undeciding_fail _

def Capitalized (name : Text) : Prop := ∃ c r, name = c :: r ∧ c.isUpper = true

theorem FieldDecl.exported_iff {field : FieldDecl} {name : Text} (h : field.names = [name]) :
    field.exported = true ↔ Capitalized name := by
  unfold FieldDecl.exported Capitalized
  rw [h]
  cases name <;> simp

namespace Command

variable {key name : Text} {field : FieldDecl} {fields : List FieldDecl}

theorem undeciding_tagOfLiteral (name : Text) (literal : Option Text) (key : Text) :
    Undeciding (tagOfLiteral name literal key) := by
  unfold tagOfLiteral
  split
  · exact (undeciding_note rfl).bind fun _ => undeciding_pure _
  · split
    · exact undeciding_fail _
    · exact (undeciding_note rfl).bind fun _ => undeciding_pure _
    · split
      · exact undeciding_fail _
      · exact (undeciding_note rfl).bind fun _ => undeciding_pure _
      · refine (undeciding_note rfl).bind fun _ => ?_
        refine (undeciding_readDirective _ _ _).bind fun _ => ?_
        exact (undeciding_readDirective _ _ _).bind fun _ => undeciding_pure _

theorem inputsOfFields_singleton (key : Text) (field : FieldDecl) :
    inputsOfFields key [field] = Option.toList <$> inputOfField key field := by
  simp [inputsOfFields]

theorem inputsOfFields_append_eq (key : Text) (before after : List FieldDecl) :
    inputsOfFields key (before ++ after) = inputsOfFields key before >>= fun xs =>
      inputsOfFields key after >>= fun ys => pure (xs ++ ys) := by
  induction before with
  | nil => simp [inputsOfFields]
  | cons field before ih =>
    simp only [List.cons_append, inputsOfFields, ih, bind_assoc, pure_bind, List.append_assoc]

theorem concatenates_inputsOfFields (key : Text) (before after : List FieldDecl) :
    Concatenates (inputsOfFields key before) (inputsOfFields key after)
      (inputsOfFields key (before ++ after)) := by
  rw [inputsOfFields_append_eq]
  exact concatenates_bind _ _

/-- Fields that compile by themselves compile in a row, each to its own notices and inputs. -/
theorem inputsOfFields_eq_flatMap {own : FieldDecl → List CommandInput}
    (h : ∀ field ∈ fields, (inputsOfFields key [field]).outcome = .ok (own field)) :
    inputsOfFields key fields = ⟨fields.flatMap fun field => (inputsOfFields key [field]).notices,
      .ok (fields.flatMap own)⟩ := by
  induction fields with
  | nil => rfl
  | cons field fields ih =>
    obtain ⟨hfield, hfields⟩ := List.forall_mem_cons.mp h
    have hrest := ih hfields
    have hboth := (concatenates_inputsOfFields key [field] fields).values _ _ hfield
      (congrArg Report.outcome hrest)
    rwa [hrest] at hboth

theorem inputsOfFields_of_nameless (h : field.names = []) :
    inputsOfFields key [field] = ⟨[.fieldNameless field.type], .ok []⟩ := by
  rw [inputsOfFields_singleton, inputOfField, h]
  rfl

theorem inputsOfFields_of_many_names (h : 2 ≤ field.names.length) :
    inputsOfFields key [field] = ⟨[.fieldManyNames field.names], .ok []⟩ := by
  rw [inputsOfFields_singleton, inputOfField]
  split
  · next hn => simp [hn] at h
  · next hn => simp [hn] at h
  · rfl

theorem inputsOfFields_of_unexported (h : field.names = [name]) (hc : ¬ Capitalized name) :
    inputsOfFields key [field] = ⟨[.fieldUnexported name], .ok []⟩ := by
  have hx : field.exported = false := by
    rwa [← FieldDecl.exported_iff h, Bool.not_eq_true] at hc
  rw [inputsOfFields_singleton, inputOfField, h]
  dsimp only
  rw [hx]
  rfl

theorem notices_of_exported (h : field.names = [name]) (hc : Capitalized name) :
    (inputsOfFields key [field]).notices.filter Notice.decidesField =
      [.fieldCompiling name] := by
  have hx : field.exported = true := (FieldDecl.exported_iff h).mpr hc
  rw [inputsOfFields_singleton, notices_map, inputOfField, h]
  dsimp only
  rw [if_pos hx, bind_pure_comp, notices_map, inputOfExported, bind_of_ok rfl]
  have hrest : Undeciding (do
      note (if field.doc = [] then .fieldNoDoc name else .fieldDoc name field.doc)
      let tag ← tagOfLiteral name field.tag key
      return { fieldName := name, tag, doc := field.doc, type := field.type : CommandInput }) := by
    refine (undeciding_note ?_).bind fun _ => ?_
    · split <;> rfl
    · exact (undeciding_tagOfLiteral _ _ _).bind fun _ => undeciding_pure _
  rw [List.filter_append, hrest.filter_eq_nil, List.append_nil]
  rfl

theorem inputsOfFields_singleton_eq_error_iff {e : Failure} :
    (inputsOfFields key [field]).outcome = .error e ↔ FieldFault key field e := by
  rw [inputsOfFields_singleton, outcome_map, ← inputOfField_eq_error_iff]
  cases (inputOfField key field).outcome <;> simp

theorem exists_input_of_exported (h : field.names = [name]) (hc : Capitalized name)
    (hf : ∀ e, ¬ FieldFault key field e) : ∃ tag, (inputsOfFields key [field]).outcome =
      .ok [{ fieldName := name, tag, doc := field.doc, type := field.type }] := by
  have hx : field.exported = true := (FieldDecl.exported_iff h).mpr hc
  obtain ⟨input, hi⟩ := exists_inputOfField_iff.mpr hf
  rw [inputOfField_of_exported hx h, bind_eq_ok_iff] at hi
  obtain ⟨tag, ht, -⟩ := hi
  refine ⟨tag, ?_⟩
  rw [inputsOfFields_singleton, outcome_map, inputOfField_of_exported hx h, ht]
  rfl

structure Settles (key : Text) (field : FieldDecl) (compiled : Report (List CommandInput)) :
    Prop where
  nameless : field.names = [] → compiled = ⟨[.fieldNameless field.type], .ok []⟩
  many_names : 2 ≤ field.names.length → compiled = ⟨[.fieldManyNames field.names], .ok []⟩
  unexported : ∀ name, field.names = [name] → ¬ Capitalized name →
    compiled = ⟨[.fieldUnexported name], .ok []⟩
  exported_notice : ∀ name, field.names = [name] → Capitalized name →
    compiled.notices.filter Notice.decidesField = [.fieldCompiling name]
  exported_input : ∀ name, field.names = [name] → Capitalized name →
    (∀ e, ¬ FieldFault key field e) →
    ∃ tag, compiled.outcome =
      .ok [{ fieldName := name, tag, doc := field.doc, type := field.type }]
  error_iff : ∀ e, compiled.outcome = .error e ↔ FieldFault key field e

theorem settles_inputsOfFields (key : Text) (field : FieldDecl) :
    Settles key field (inputsOfFields key [field]) where
  nameless := inputsOfFields_of_nameless
  many_names := inputsOfFields_of_many_names
  unexported _ := inputsOfFields_of_unexported
  exported_notice _ := notices_of_exported
  exported_input _ := exists_input_of_exported
  error_iff _ := inputsOfFields_singleton_eq_error_iff

/-- The fields of a struct are compiled one by one and in their order. A field that is exported
under one name gives one input, unless its tag is faulty; every other field gives none. -/
theorem inputsOfType_field_by_field (type : TypeDecl) (key : Text) :
    (∀ before after : List FieldDecl,
      Concatenates (inputsOfType key { type with fields := some before })
        (inputsOfType key { type with fields := some after })
        (inputsOfType key { type with fields := some (before ++ after) })) ∧
    (∀ field, Settles key field (inputsOfType key { type with fields := some [field] })) ∧
    ∀ (fields : List FieldDecl) (own : FieldDecl → List CommandInput),
      (∀ field ∈ fields,
        (inputsOfType key { type with fields := some [field] }).outcome = .ok (own field)) →
      inputsOfType key { type with fields := some fields } =
        ⟨fields.flatMap fun field =>
          (inputsOfType key { type with fields := some [field] }).notices,
        .ok (fields.flatMap own)⟩ := by
  refine ⟨?_, ?_, ?_⟩
  · intro before after
    exact concatenates_inputsOfFields key before after
  · intro field
    exact settles_inputsOfFields key field
  · intro fields own h
    exact inputsOfFields_eq_flatMap h

namespace Row

/-- A field with a malformed flag. -/
def tagged : FieldDecl := { names := ["A"], tag := some "`cliche:\"flag:x\"`", type := "int" }

def embedded : FieldDecl := { type := "Base" }

def plain : FieldDecl := { names := ["B"], doc := "B is last.", type := "bool" }

def all : List FieldDecl := [tagged, embedded, plain]

def own (field : FieldDecl) : List CommandInput :=
  field.names.map fun name =>
    { fieldName := name, tag := if name = "A" then "flag:x" else [], doc := field.doc,
      type := field.type }

/-- The malformed flag and the embedded field leave the other fields as they are. -/
theorem inputs_in_order :
    (inputsOfType "cliche" { name := "T", kind := structKind, fields := some all }).outcome =
        .ok [{ fieldName := "A", tag := "flag:x", type := "int" },
          { fieldName := "B", doc := "B is last.", type := "bool" }] := by
  have hall := (inputsOfType_field_by_field { name := "T", kind := structKind } "cliche").2.2
    all own
  refine congrArg Report.outcome (hall fun field hf => ?_)
  rcases List.mem_cons.mp hf with rfl | hf
  · rfl
  · rcases List.mem_cons.mp hf with rfl | hf
    · rfl
    · obtain rfl := List.mem_singleton.mp hf
      rfl

end Row

/-- A tag whose escape needs more than 31 bits takes the input of its field away. -/
theorem not_always_one_input : ¬ ∀ (type : TypeDecl) (key name : Text) (field : FieldDecl),
    field.names = [name] → Capitalized name →
    ∃ tag, (inputsOfType key { type with fields := some [field] }).outcome =
      .ok [{ fieldName := name, tag, doc := field.doc, type := field.type }] := by
  intro h
  obtain ⟨tag, ht⟩ := h { name := "T", kind := structKind } "cliche" "A"
    { names := ["A"], tag := some "\"\\UFFFFFFFF\"", type := "int" } rfl ⟨'A', [], rfl, by decide⟩
  cases ht

end Command

end StructCli
