import StructCli.Go.Grammar.File
import StructCli.Proofs.Go.Outline.Fields
import StructCli.Proofs.Text.Utf8

/-! # Reading the source of an outline

Whatever parser finds the phrases of an outline in its source, the source is read as what the
outline declares: every package, type and field with its name, doc, type and tag, and nothing else.
-/

namespace StructCli.Go.Outline

open Sketch

section

variable {source pre : Text} {indent inner outer : Indent} {es : List Entry}
  {ps : List Placed} {p : Placed} {n : Node} {s : Struct}

/-! ## Lists of entries -/

theorem map_eq_of_forall₂ {α β γ : Type} {R : α → β → Prop} {f : α → γ} {g : β → γ} {l : List α}
    {m : List β} (h : List.Forall₂ R l m) (hR : ∀ a b, R a b → g b = f a) : m.map g = l.map f := by
  induction h with
  | nil => rfl
  | cons h _ ih => rw [List.map_cons, List.map_cons, hR _ _ h, ih]

theorem exists_of_mem_forall₂ {α β : Type} {R : α → β → Prop} {l : List α} {m : List β} {b : β}
    (h : List.Forall₂ R l m) (hb : b ∈ m) : ∃ a, R a b := by
  induction h with
  | nil => cases hb
  | @cons a _ _ _ h _ ih => exact (List.mem_cons.mp hb).elim (fun hb => ⟨a, hb ▸ h⟩) ih

/-- Phrases of one kind are all the nodes of that kind and none of another one. -/
theorem filter_found {kind : Text} (h : List.Forall₂ (Entry.Found source) es ps)
    (hk : ∀ e ∈ es, e.kind = kind) (other : Text) :
    ps.filter (·.node.is other) = if kind = other then ps else [] := by
  induction h with
  | nil => simp
  | cons h _ ih =>
    obtain ⟨he, hk⟩ := List.forall_mem_cons.mp hk
    rw [List.filter_cons, is_of_found h, he, ih hk]
    by_cases hother : kind = other <;> simp [hother]

theorem exists_parts_of_fits (kind post : Text) {nodes beside : List Node} (hne : kind ≠ "comment")
    (hk : ∀ e ∈ es, e.kind = kind) (h : Fits pre (es.flatMap (Entry.sketch indent)) nodes)
    (hs : source = pre ++ texts (es.flatMap (Entry.sketch indent)) ++ post)
    (hf : Fresh pre.lineFeeds (beside.map (Node.sibling source))) :
    ∃ ps, List.Forall₂ (Entry.Found source) es ps ∧
      (Placed.ofSiblings beside nodes).filter (·.node.is kind) = ps := by
  obtain ⟨ps, hfound, hparts⟩ := exists_forall₂_found beside post (fun e he => hk e he ▸ hne) h hs hf
  exact ⟨ps, hfound, (hparts kind hne).trans ((filter_found hfound hk kind).trans (if_pos rfl))⟩

theorem fresh_sign (source : Text) (beside : List Node) {spelling : Text} (hk : n.kind = spelling)
    (hn : n.named = false) (hc : n.Covers pre spelling)
    (hs : spelling ≠ "\n" ∧ spelling ≠ ";" ∧ spelling ≠ "comment") :
    Fresh (pre ++ spelling ++ "\n").lineFeeds ((n :: beside).map (Node.sibling source)) := by
  rw [List.map_cons, sibling_of_sign source hn hk hs]
  exact fresh_other (endRow_lt_of_covers hc)

/-! ## Structs -/

theorem fieldList_of_fits (post : Text) (h : Fits pre (s.fieldList inner outer) n.children)
    (hs : source = pre ++ texts (s.fieldList inner outer) ++ post) :
    (n.parts "field_declaration").map (fieldDecl source) = s.fields.map Field.decl := by
  obtain ⟨brace, _, hchildren, -, hk, hn, hc, h⟩ := fits_token h
  obtain ⟨l, r, rfl, hl, hr⟩ := fits_append (fits_blank h)
  obtain ⟨close, _, rfl, -, -, hclose, -, h⟩ := fits_token (fits_blank hr)
  obtain rfl := fits_nil h
  have hfresh : Fresh (pre ++ "\x7b" ++ "\n").lineFeeds ([brace].map (Node.sibling source)) :=
    fresh_sign source [] hk hn hc (by decide)
  obtain ⟨ps, hfound, hl⟩ := exists_parts_of_fits "field_declaration"
    (outer.text ++ ("\x7d" : Text) ++ post) (by decide) (List.forall_mem_map.mpr fun _ _ => rfl) hl
    (by simpa [Struct.fieldList, texts, Sketch.text, sign] using hs) hfresh
  have hps : n.parts "field_declaration" = ps := by
    rw [← hl, Node.parts, hchildren]
    simp [Placed.ofSiblings, Placed.ofSiblings_append, Node.is, hn, hclose]
  rw [hps]
  exact map_eq_of_forall₂ (List.forall₂_map_left_iff.mp hfound) fun f p => fieldDecl_of_found

/-- A specification is read as the struct that it is written for, whatever its doc. -/
theorem namedBodies_of_holds (h : n.Holds source (s.sketch inner outer)) :
    ∃ name body, namedBodies n.children = [(name, body)] ∧
      ∀ place : TypePlace, place.name = name → place.body = body →
        typeDecl source place = { s.decl with doc := place.doc source } := by
  obtain ⟨pre, post, hs, -, h⟩ := h
  obtain ⟨name, _, hchildren, hlname, hkname, hname, hcname, h⟩ := fits_token h
  obtain ⟨body, _, rfl, hlbody, hkbody, hbody, hcbody, hi, h⟩ := fits_phrase (fits_blank h)
  obtain rfl := fits_nil h
  obtain ⟨struct, _, hinner, -, -, hstruct, -, hi⟩ := fits_token hi
  obtain ⟨list, _, rfl, -, hklist, hlist, -, hfields, hi⟩ := fits_phrase (fits_blank hi)
  obtain rfl := fits_nil hi
  refine ⟨name, body, ?_, fun place hn hb => ?_⟩
  · simp [hchildren, namedBodies, Node.is, Node.labelled, hlname, hkname, hname, hlbody, hbody]
  · have htext : name.text source = s.name := by
      rw [hs]
      simpa [Struct.sketch, texts, Sketch.text] using hcname.text_eq _
    have hlists : body.children.find? (Node.is "field_declaration_list") = some list := by
      rw [hinner, List.find?_cons_of_neg (by simp [Node.is, hstruct]),
        List.find?_cons_of_pos (by simp [Node.is, hlist, hklist])]
    have hread : (list.parts "field_declaration").map (fieldDecl source) =
        s.fields.map Field.decl := by
      refine fieldList_of_fits post hfields ?_
      simpa [Struct.sketch, texts, Sketch.text, sign] using hs
    simp only [typeDecl, TypePlace.fields, hn, hb, htext, hkbody, hlists, if_true,
      Option.elim_some, Option.map_some, hread]
    rfl

/-! ## Declarations -/

theorem types_of_spec {declaration spec : Placed}
    (h : spec.node.Holds source (s.sketch inner outer))
    (hdoc : ∀ place : TypePlace, place.declaration = declaration → place.spec = spec →
      place.doc source = s.doc.text) :
    ((namedBodies spec.node.children).map fun (name, body) =>
      (⟨declaration, spec, name, body⟩ : TypePlace)).map (typeDecl source) = [s.decl] := by
  obtain ⟨name, body, hbodies, hread⟩ := namedBodies_of_holds h
  rw [hbodies, List.map_singleton, List.map_singleton, hread _ rfl rfl, hdoc _ rfl rfl]
  rfl

/-- A single type has the doc of its declaration, since nothing but the keyword stands before its
specification. -/
theorem types_of_single (h : ((Declaration.single s).entry indent).Found source p) :
    p.types.map (typeDecl source) = [s.decl] := by
  obtain ⟨pre, post, hs, -, hi⟩ := h.holds
  obtain ⟨keyword, _, hchildren, -, hk, hn, hc, hi⟩ := fits_token hi
  obtain ⟨spec, _, rfl, -, hkspec, hspec, hcspec, hsketch, hi⟩ := fits_phrase (fits_blank hi)
  obtain rfl := fits_nil hi
  have hparts : p.node.parts "type_spec" = [⟨spec, [keyword]⟩] := by
    simp [Node.parts, hchildren, Placed.ofSiblings, Node.is, hn, hspec, hkspec]
  have hkeyword := sibling_of_sign source hn hk (by decide)
  have hholds : spec.Holds source (s.sketch indent .flush) :=
    ⟨_, post, by simpa [Declaration.entry, Declaration.sketch, texts, Sketch.text, sign] using hs,
      hcspec, hsketch⟩
  rw [Placed.types, hparts, List.flatMap_singleton]
  refine types_of_spec hholds fun place hd hspec => ?_
  have hown : place.spec.doc source = [] := by
    rw [hspec, Placed.doc, Placed.site, List.map_singleton, hkeyword]
    rfl
  have halone : place.alone = true := by
    simp [TypePlace.alone, hd, hparts]
  rw [TypePlace.doc, if_pos ⟨hown, halone⟩, hd, h.doc]
  rfl

theorem types_of_specs {declaration : Placed} {types : List Struct} {specs : List Placed}
    (hdoc : declaration.doc source = [])
    (h : List.Forall₂ (fun s spec => (Struct.entry indent s).Found source spec) types specs) :
    (specs.flatMap fun spec => (namedBodies spec.node.children).map fun (name, body) =>
      (⟨declaration, spec, name, body⟩ : TypePlace)).map (typeDecl source) =
        types.map Struct.decl := by
  induction h with
  | nil => rfl
  | @cons s spec types specs hspec _ ih =>
    have hown : ∀ place : TypePlace, place.declaration = declaration → place.spec = spec →
        place.doc source = s.doc.text := by
      intro place hd hp
      simp only [TypePlace.doc, hp, hd, hspec.doc, hdoc]
      split
      · next he => exact he.1.symm
      · rfl
    rw [List.flatMap_cons, List.map_append, types_of_spec hspec.holds hown, ih]
    rfl

theorem types_of_group {types : List Struct}
    (h : ((Declaration.group types).entry indent).Found source p) :
    p.types.map (typeDecl source) = types.map Struct.decl := by
  obtain ⟨pre, post, hs, -, hi⟩ := h.holds
  obtain ⟨keyword, _, hchildren, -, -, hn, -, hi⟩ := fits_token hi
  obtain ⟨paren, _, rfl, -, hkparen, hparen, hcparen, hi⟩ := fits_token (fits_blank hi)
  obtain ⟨l, r, rfl, hl, hr⟩ := fits_append (fits_blank hi)
  obtain ⟨close, _, rfl, -, -, hclose, -, hr⟩ := fits_token hr
  obtain rfl := fits_nil hr
  have hfresh := fresh_sign source [keyword] hkparen hparen hcparen (by decide)
  obtain ⟨ps, hfound, hl⟩ := exists_parts_of_fits "type_spec" ((")" : Text) ++ post) (by decide)
    (List.forall_mem_map.mpr fun _ _ => rfl) hl
    (by simpa [Declaration.entry, Declaration.sketch, texts, Sketch.text, sign] using hs) hfresh
  have hparts : p.node.parts "type_spec" = ps := by
    rw [← hl, Node.parts, hchildren]
    simp [Placed.ofSiblings, Placed.ofSiblings_append, Node.is, hn, hparen, hclose]
  rw [Placed.types, hparts]
  exact types_of_specs h.doc (List.forall₂_map_left_iff.mp hfound)

theorem types_of_found {d : Declaration} (h : (d.entry indent).Found source p) :
    p.types.map (typeDecl source) = d.types.map Struct.decl := by
  cases d with
  | single s => exact types_of_single h
  | group types => exact types_of_group h

/-! ## The order of the types -/

theorem TypePlace.sort_eq_self {places : List TypePlace}
    (h : places.Pairwise fun p q => p.start ≤ q.start) : TypePlace.sort places = places := by
  induction places with
  | nil => rfl
  | cons p places ih =>
    obtain ⟨hp, h⟩ := List.pairwise_cons.mp h
    rw [TypePlace.sort, List.foldr_cons, ← TypePlace.sort, ih h]
    cases places with
    | nil => rfl
    | cons q places => rw [TypePlace.insert, if_pos (hp q List.mem_cons_self)]

theorem apart_of_holds {parts : List Sketch} (h : n.Holds source parts) :
    Apart n.start n.stop n.children := by
  obtain ⟨pre, post, -, hc, hi⟩ := h
  exact hc.start ▸ hc.stop ▸ apart_of_fits hi

theorem map_node_ofSiblings (beside nodes : List Node) :
    (Placed.ofSiblings beside nodes).map Placed.node = nodes := by
  induction nodes generalizing beside with
  | nil => rfl
  | cons n nodes ih => rw [Placed.ofSiblings, List.map_cons, ih]

theorem pairwise_parts {first last : Nat} (h : Apart first last n.children) (kind : Text) :
    (n.parts kind).Pairwise fun p q => p.node.stop ≤ q.node.start := by
  have hnodes := h.pairwise
  rw [← map_node_ofSiblings [] n.children] at hnodes
  exact (List.pairwise_map.mp hnodes).sublist List.filter_sublist

theorem within_parts {first last : Nat} {kind : Text} (h : Apart first last n.children)
    (hp : p ∈ n.parts kind) :
    first ≤ p.node.start ∧ p.node.start ≤ p.node.stop ∧ p.node.stop ≤ last :=
  h.within _ (Placed.mem_children_of_parts hp)

theorem exists_spec_of_mem_types {a : TypePlace} (h : a ∈ p.types) :
    ∃ spec ∈ p.node.parts "type_spec", a.start = spec.node.start := by
  obtain ⟨spec, hspec, h⟩ := List.mem_flatMap.mp h
  obtain ⟨⟨name, body⟩, -, rfl⟩ := List.mem_map.mp h
  exact ⟨spec, hspec, rfl⟩

theorem pairwise_types {first last : Nat} (h : Apart first last p.node.children) :
    p.types.Pairwise fun a b => a.start ≤ b.start := by
  refine List.pairwise_flatMap.mpr ⟨fun spec _ => ?_, ?_⟩
  · exact List.pairwise_map.mpr (List.pairwise_of_forall fun a b => Nat.le_refl _)
  · refine (pairwise_parts h "type_spec").imp_of_mem fun {s t} hs _ hst a ha b hb => ?_
    obtain ⟨_, -, rfl⟩ := List.mem_map.mp ha
    obtain ⟨_, -, rfl⟩ := List.mem_map.mp hb
    exact Nat.le_trans (within_parts h hs).2.1 hst

theorem pairwise_typePlaces {root : Node} {first last : Nat} (h : Apart first last root.children)
    (hp : ∀ p ∈ root.parts "type_declaration",
      Apart p.node.start p.node.stop p.node.children) :
    ((root.parts "type_declaration").flatMap Placed.types).Pairwise
      fun a b => a.start ≤ b.start := by
  refine List.pairwise_flatMap.mpr ⟨fun p hmem => pairwise_types (hp p hmem), ?_⟩
  refine (pairwise_parts h "type_declaration").imp_of_mem fun {p q} hpmem hqmem hpq a ha b hb => ?_
  obtain ⟨s, hs, ha⟩ := exists_spec_of_mem_types ha
  obtain ⟨t, ht, hb⟩ := exists_spec_of_mem_types hb
  obtain ⟨-, hsle, hslast⟩ := within_parts (hp p hpmem) hs
  obtain ⟨htfirst, -⟩ := within_parts (hp q hqmem) ht
  rw [ha, hb]
  exact hsle.trans (hslast.trans (hpq.trans htfirst))

/-! ## Files -/

/-- What a parser finds in the source of an outline: no fault, and a node for each phrase and each
token, in its place and under the kind and the label by which declarations are read. -/
structure Package.IsTree (p : Package) (indent : Indent) (tree : SyntaxTree) : Prop where
  noError : tree.hasError = false
  root : tree.root.is "source_file" = true
  fits : Fits [] (p.sketch indent) tree.root.children

theorem Package.isTree_iff {p : Package} {tree : SyntaxTree} : p.IsTree indent tree ↔
    tree.hasError = false ∧ tree.root.is "source_file" = true ∧
      Fits [] (p.sketch indent) tree.root.children :=
  ⟨fun h => ⟨h.noError, h.root, h.fits⟩, fun ⟨he, hr, hf⟩ => ⟨he, hr, hf⟩⟩

instance (p : Package) (indent : Indent) (tree : SyntaxTree) : Decidable (p.IsTree indent tree) :=
  decidable_of_iff _ Package.isTree_iff.symm

theorem Package.exists_parts {p : Package} {tree : SyntaxTree} (h : p.IsTree indent tree) :
    ∃ clause declarations, p.clause.Found (p.source indent) clause ∧
      List.Forall₂ (fun d => (d.entry indent).Found (p.source indent)) p.declarations
        declarations ∧
      tree.root.parts "package_clause" = [clause] ∧
      tree.root.parts "type_declaration" = declarations := by
  have hkind : ∀ e ∈ p.declarations.map (Declaration.entry indent), e.kind = "type_declaration" :=
    List.forall_mem_map.mpr fun _ _ => rfl
  have hclause : p.clause.kind = "package_clause" := rfl
  have hkinds : ∀ e ∈ p.clause :: p.declarations.map (Declaration.entry indent),
      e.kind ≠ "comment" :=
    List.forall_mem_cons.mpr ⟨by rw [hclause]; decide, fun e he => by rw [hkind e he]; decide⟩
  have hsource : p.source indent = [] ++ texts (p.sketch indent) ++ [] := by
    rw [p.texts_sketch, List.append_nil, List.nil_append]
  obtain ⟨ps, hfound, hparts⟩ := exists_forall₂_found [] [] hkinds h.fits hsource (fresh_nil _)
  obtain ⟨clause, declarations, hc, hds, rfl⟩ := List.forall₂_cons_left_iff.mp hfound
  have hother : ∀ kind : Text, kind ≠ "comment" → tree.root.parts kind =
      [clause].filter (·.node.is kind) ++ declarations.filter (·.node.is kind) := fun kind hne => by
    rw [Node.parts, hparts kind hne, ← List.filter_append, List.singleton_append]
  refine ⟨clause, declarations, hc, List.forall₂_map_left_iff.mp hds, ?_, ?_⟩
  · rw [hother _ (by decide), filter_found hds hkind, if_neg (by decide), List.append_nil,
      List.filter_cons_of_pos (by rw [is_of_found hc]; rfl), List.filter_nil]
  · rw [hother _ (by decide), filter_found hds hkind, if_pos rfl, List.filter_cons_of_neg,
      List.filter_nil, List.nil_append]
    rw [is_of_found hc, hclause]
    decide

theorem packageClauses_of_isTree {p : Package} {tree : SyntaxTree} (h : p.IsTree indent tree) :
    ∃ clause name, packageClauses tree.root = [(clause, name)] ∧
      clause.doc (p.source indent) = p.doc.text ∧ name.text (p.source indent) = p.name := by
  obtain ⟨clause, _, hc, -, hparts, -⟩ := p.exists_parts h
  obtain ⟨pre, post, hs, -, hi⟩ := hc.holds
  obtain ⟨keyword, _, hchildren, -, -, hkeyword, -, hi⟩ := fits_token hi
  obtain ⟨name, _, rfl, -, hkind, hname, hcovers, hi⟩ := fits_token (fits_blank hi)
  obtain rfl := fits_nil hi
  refine ⟨clause, name, ?_, hc.doc, ?_⟩
  · rw [packageClauses, if_pos h.root]
    simp [hparts, hchildren, Node.is, hkeyword, hname, hkind]
  · rw [hs]
    simpa [Package.clause, texts, Sketch.text, sign] using hcovers.text_eq post

theorem types_of_isTree {p : Package} {tree : SyntaxTree} (h : p.IsTree indent tree) :
    (TypePlace.sort (typePlaces tree.root)).map (typeDecl (p.source indent)) = p.decl.types := by
  obtain ⟨_, declarations, -, hds, -, hparts⟩ := p.exists_parts h
  have hplaces : typePlaces tree.root = declarations.flatMap Placed.types := by
    rw [typePlaces, if_pos h.root, hparts]
  have hsorted : (typePlaces tree.root).Pairwise fun a b => a.start ≤ b.start := by
    rw [hplaces, ← hparts]
    refine pairwise_typePlaces (apart_of_fits h.fits) fun place hplace => ?_
    obtain ⟨d, hd⟩ := exists_of_mem_forall₂ hds (hparts ▸ hplace)
    exact apart_of_holds hd.holds
  rw [TypePlace.sort_eq_self hsorted, hplaces, Package.decl, List.map_flatMap, List.map_flatMap,
    List.flatMap_def, List.flatMap_def, map_eq_of_forall₂ hds fun d place => types_of_found]

theorem packageOfTree_of_isTree {p : Package} {tree : SyntaxTree} (h : p.IsTree indent tree) :
    packageOfTree (p.source indent) tree = .ok p.decl := by
  obtain ⟨clause, name, hclauses, hdoc, hname⟩ := packageClauses_of_isTree h
  simp only [packageOfTree, h.noError, hclauses, List.getLast?_singleton, hdoc, hname,
    types_of_isTree h]
  rfl

end

/-- The encoded source of an outline is read as its declarations, if the parser finds the outline
in it. -/
theorem readPackage_source (p : Package) (indent : Indent) (filename : Text) (source : String)
    (parse : TreeParser) (h : Text.ofString source = p.source indent)
    (hp : p.IsTree indent (parse source.toUTF8.data.toList)) :
    declarationParser parse filename source.toUTF8.data.toList =
      ⟨[.packageParsed p.name filename p.decl.types.length], .ok p.decl⟩ := by
  have hbytes : packageOfBytes parse source.toUTF8.data.toList = .ok p.decl := by
    rw [packageOfBytes, Utf8.decode_encode]
    change packageOfTree (Text.ofString source) _ = _
    rw [h, packageOfTree_of_isTree hp]
  rw [declarationParser, hbytes]
  rfl

namespace Point

def tab : Indent := ⟨"\t", by decide⟩

def coordinates : Field where
  doc := ⟨["The coordinates,", [], "in pixels."],
    by decide, by decide, by decide, by decide, by decide⟩
  names := ["X", "Y"]
  type := ⟨false, none, "int"⟩
  tag := some "cliche:\"arg:1\""

def base : Field where
  doc := .none
  names := []
  type := ⟨true, some "shape", "Base"⟩
  tag := none

/-- A package with a single type and a group. -/
def outline : Package where
  doc := .none
  name := "p"
  declarations :=
    [.single ⟨.none, "Point", [coordinates, base]⟩, .group [⟨.none, "Empty", []⟩]]

def source : String :=
  "package p\n\ntype Point struct \x7b\n\t// The coordinates,\n\t//\n\t// in pixels.\n" ++
    "\tX, Y int `cliche:\"arg:1\"`\n\t*shape.Base\n\x7d\n\n" ++
    "type (\n\tEmpty struct \x7b\n\t\x7d\n)\n"

theorem read_source : Text.ofString source = outline.source tab ∧
    outline.IsTree tab (readTree source.toUTF8.data.toList) ∧
    (readPackage "p.go" source.toUTF8.data.toList).outcome =
      .ok { name := "p", types := [
        { name := "Point", kind := structKind, fields := some [
          { names := ["X", "Y"], doc := "The coordinates,\n\nin pixels.",
            tag := some "`cliche:\"arg:1\"`", type := "int" },
          { type := "*shape.Base" }] },
        { name := "Empty", kind := structKind, fields := some [] }] } := by
  have hsource : Text.ofString source = outline.source tab := by decide +kernel
  have htree : outline.IsTree tab (readTree source.toUTF8.data.toList) := by decide +kernel
  refine ⟨hsource, htree, ?_⟩
  rw [readPackage, readPackage_source outline tab "p.go" source readTree hsource htree]
  rfl

end Point

end StructCli.Go.Outline
