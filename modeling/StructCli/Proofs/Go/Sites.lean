import Mathlib.Data.List.Forall2
import StructCli.Go.Source
import StructCli.Proofs.Go.Rows
import StructCli.Proofs.Text.Utf8

/-! # Documented sites

The docs of a package are read at the sites of its last package clause, of the specification and
the declaration of each type, and of each field. Where the nodes of the tree are in order, so are
the sites.
-/

namespace StructCli.Go

variable {P Q : Doc.Site → Text → Prop} {source : Text} {root : Node} {place : TypePlace}
  {clause f : Placed} {name : Node}

/-- A type is documented at its specification or, if nothing is said there and no other type is
declared with it, at its declaration. Its fields are documented where they stand. -/
structure TypeDocsHave (P : Doc.Site → Text → Prop) (source : Text) (place : TypePlace)
    (t : TypeDecl) : Prop where
  doc : ∃ own shared, P (place.spec.site source) own ∧ P (place.declaration.site source) shared ∧
    t.doc = if own = [] ∧ place.alone then shared else own
  fields : List.Forall₂ (fun f (d : FieldDecl) => P (f.site source) d.doc)
    (place.fields.getD []) (t.fields.getD [])

/-- Every doc of a package has the property at the site that it is about. -/
structure DocsHave (P : Doc.Site → Text → Prop) (source : Text) (root : Node) (p : PackageDecl) :
    Prop where
  package : ∃ clause name, (packageClauses root).getLast? = some (clause, name) ∧
    P (clause.site source) p.doc
  types : List.Forall₂ (TypeDocsHave P source) (TypePlace.sort (typePlaces root)) p.types

/-- The sites of the fields of all types. -/
def fieldSites (source : Text) (root : Node) : List Doc.Site :=
  (TypePlace.sort (typePlaces root)).flatMap fun place =>
    (place.fields.getD []).map (Placed.site source)

def fieldDocs (p : PackageDecl) : List Text :=
  p.types.flatMap fun t => (t.fields.getD []).map FieldDecl.doc

theorem DocsHave.fields {p : PackageDecl} (h : DocsHave P source root p) :
    List.Forall₂ P (fieldSites source root) (fieldDocs p) := by
  refine List.rel_flatMap h.types fun place t ht => ?_
  rw [List.forall₂_map_left_iff, List.forall₂_map_right_iff]
  exact ht.fields

/-! ## Places of types -/

theorem TypePlace.mem_insert {p q : TypePlace} {ps : List TypePlace} :
    q ∈ p.insert ps ↔ q = p ∨ q ∈ ps := by
  induction ps with
  | nil => simp [insert]
  | cons r ps ih =>
    rw [insert]
    split
    · exact List.mem_cons
    · rw [List.mem_cons, ih, List.mem_cons]
      exact or_left_comm

theorem TypePlace.mem_sort {q : TypePlace} {ps : List TypePlace} : q ∈ sort ps ↔ q ∈ ps := by
  induction ps with
  | nil => rfl
  | cons p ps ih => rw [sort, List.foldr_cons, mem_insert, List.mem_cons, ← ih, sort]

theorem mem_of_namedBodies {body : Node} {ns : List Node} (h : (name, body) ∈ namedBodies ns) :
    body ∈ ns := by
  induction ns with
  | nil => exact absurd h List.not_mem_nil
  | cons n after ih =>
    rcases List.mem_append.mp h with h | h
    · split at h
      · obtain ⟨t, ht, he⟩ := List.mem_map.mp h
        obtain ⟨-, rfl⟩ := Prod.mk.inj he
        exact List.mem_cons_of_mem n (List.mem_filter.mp ht).1
      · exact absurd h List.not_mem_nil
    · exact List.mem_cons_of_mem n (ih h)

theorem mem_typePlaces (h : place ∈ typePlaces root) :
    place.declaration ∈ root.parts "type_declaration" ∧
      place.spec ∈ place.declaration.node.parts "type_spec" ∧
      (place.name, place.body) ∈ namedBodies place.spec.node.children := by
  unfold typePlaces at h
  split at h
  · obtain ⟨declaration, hd, h⟩ := List.mem_flatMap.mp h
    obtain ⟨spec, hs, h⟩ := List.mem_flatMap.mp h
    obtain ⟨⟨name, body⟩, hb, rfl⟩ := List.mem_map.mp h
    exact ⟨hd, hs, hb⟩
  · exact absurd h List.not_mem_nil

theorem mem_packageClauses (h : (clause, name) ∈ packageClauses root) :
    clause ∈ root.parts "package_clause" := by
  unfold packageClauses at h
  split at h
  · obtain ⟨c, hc, h⟩ := List.mem_flatMap.mp h
    obtain ⟨n, -, he⟩ := List.mem_map.mp h
    obtain ⟨rfl, -⟩ := Prod.mk.inj he
    exact hc
  · exact absurd h List.not_mem_nil

theorem TypePlace.mem_fields (h : f ∈ place.fields.getD []) :
    ∃ list ∈ place.body.children, f ∈ list.parts "field_declaration" := by
  unfold fields at h
  split at h
  · cases hl : place.body.children.find? (Node.is "field_declaration_list") with
    | none => simp [hl] at h
    | some list => exact ⟨list, List.mem_of_find?_eq_some hl, by simpa [hl] using h⟩
  · exact absurd h List.not_mem_nil

/-! ## Sites in order -/

theorem inOrder_of_packageClauses (ho : root.InOrder) (h : (clause, name) ∈ packageClauses root)
    (source : Text) : (clause.site source).InOrder :=
  Placed.inOrder_site ho (mem_packageClauses h) source

theorem inOrder_of_typePlaces (ho : root.InOrder) (h : place ∈ typePlaces root) (source : Text) :
    (place.spec.site source).InOrder ∧ (place.declaration.site source).InOrder ∧
      ∀ f ∈ place.fields.getD [], (f.site source).InOrder := by
  obtain ⟨hd, hs, hb⟩ := mem_typePlaces h
  have hod := ho.child (Placed.mem_children_of_parts hd)
  have hos := hod.child (Placed.mem_children_of_parts hs)
  have hob := hos.child (mem_of_namedBodies hb)
  refine ⟨Placed.inOrder_site hod hs source, Placed.inOrder_site ho hd source, fun f hf => ?_⟩
  obtain ⟨list, hl, hf⟩ := TypePlace.mem_fields hf
  exact Placed.inOrder_site (hob.child hl) hf source

/-! ## Docs at their sites -/

theorem fields_typeDecl (source : Text) (place : TypePlace) :
    (typeDecl source place).fields.getD [] = (place.fields.getD []).map (fieldDecl source) := by
  cases h : place.fields <;> simp [typeDecl, h]

theorem typeDocsHave_typeDecl (ho : root.InOrder) (h : place ∈ typePlaces root)
    (hP : ∀ site : Doc.Site, site.InOrder → P site (Doc.above site.row site.before)) :
    TypeDocsHave P source place (typeDecl source place) := by
  obtain ⟨hs, hd, hf⟩ := inOrder_of_typePlaces ho h source
  refine ⟨⟨_, _, hP _ hs, hP _ hd, rfl⟩, ?_⟩
  rw [fields_typeDecl, List.forall₂_map_right_iff, List.forall₂_same]
  exact fun f hmem => hP _ (hf f hmem)

theorem docsHave_of_tree {tree : SyntaxTree} {p : PackageDecl} (ho : tree.root.InOrder)
    (hP : ∀ site : Doc.Site, site.InOrder → P site (Doc.above site.row site.before))
    (h : packageOfTree source tree = .ok p) : DocsHave P source tree.root p := by
  unfold packageOfTree at h
  split at h
  · cases h
  · split at h
    · cases h
    · next clause name hc =>
      obtain rfl := Except.ok.inj h
      have hclause := inOrder_of_packageClauses ho (List.mem_of_getLast? hc) source
      refine ⟨⟨clause, name, hc, hP _ hclause⟩, ?_⟩
      rw [List.forall₂_map_right_iff, List.forall₂_same]
      exact fun place hmem => typeDocsHave_typeDecl ho (TypePlace.mem_sort.mp hmem) hP

theorem exists_tree_of_outcome {parse : TreeParser} {bytes : List UInt8} {filename : Text}
    {p : PackageDecl} (h : (declarationParser parse filename bytes).outcome = .ok p) :
    ∃ chars, Utf8.decode bytes = .ok chars ∧
      packageOfTree (chars.map .scalar) (parse bytes) = .ok p := by
  unfold declarationParser packageOfBytes at h
  cases hd : Utf8.decode bytes with
  | error fault => simp [hd, Report.fail] at h
  | ok chars =>
    refine ⟨chars, rfl, ?_⟩
    cases ht : packageOfTree (chars.map .scalar) (parse bytes) with
    | error fault => simp [hd, ht, Report.fail] at h
    | ok q => simpa [hd, ht, bind, Report.bind, Report.note, pure] using h

/-- Whatever is read from a tree in order: what holds of the doc above every site in order, holds of
every doc at its site. -/
theorem docsHave_of_outcome {parse : TreeParser} {bytes : List UInt8} {filename : Text}
    {p : PackageDecl} (ho : (parse bytes).root.InOrder)
    (hP : ∀ site : Doc.Site, site.InOrder → P site (Doc.above site.row site.before))
    (h : (declarationParser parse filename bytes).outcome = .ok p) :
    ∃ chars, Utf8.decode bytes = .ok chars ∧
      DocsHave P (chars.map .scalar) (parse bytes).root p := by
  obtain ⟨chars, hd, ht⟩ := exists_tree_of_outcome h
  exact ⟨chars, hd, docsHave_of_tree ho hP ht⟩

theorem docsHave_of_string {text : String} {p : PackageDecl}
    (h : ∃ chars, Utf8.decode text.toUTF8.data.toList = .ok chars ∧
      DocsHave P (chars.map .scalar) root p) : DocsHave P (Text.ofString text) root p := by
  obtain ⟨chars, hd, h⟩ := h
  obtain rfl := Except.ok.inj ((Utf8.decode_encode text).symm.trans hd)
  exact h

end StructCli.Go
