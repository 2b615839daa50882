import StructCli.Go.Source
import StructCli.Proofs.Go.Outline.Entries

/-! # The fields of an outline

A field is read with the names, the type and the tag that it is written with. An embedded type is
read from the beginning of its line, so that it keeps its star.
-/

namespace StructCli.Go.Outline

open Sketch

variable {source pre post part : Text} {names : List Text} {nodes : List Node} {n : Node} {f : Field}
  {labels : List (Option Text)}

def LabelledIn (labels : List (Option Text)) (nodes : List Node) : Prop :=
  ∀ n ∈ nodes, n.label ∈ labels

theorem labelled_iff : n.labelled part = true ↔ n.label = some part := decide_eq_true_iff

theorem LabelledIn.filter_eq_nil (h : LabelledIn labels nodes) (part : Text) (hp : some part ∉ labels) :
    nodes.filter (Node.labelled part) = [] :=
  List.filter_eq_nil_iff.mpr fun n hn hl => hp (labelled_iff.mp hl ▸ h n hn)

theorem LabelledIn.find?_eq_none (h : LabelledIn labels nodes) (part : Text) (hp : some part ∉ labels) :
    nodes.find? (Node.labelled part) = none :=
  List.find?_eq_none.mpr fun n hn hl => hp (labelled_iff.mp hl ▸ h n hn)

theorem moreNames_of_fits
    (h : Fits pre (names.flatMap fun n => [sign ",", .blank " ", fieldName n]) nodes)
    (hs : source =
      pre ++ texts (names.flatMap fun n => [sign ",", .blank " ", fieldName n]) ++ post) :
    (nodes.filter (Node.labelled "name")).map (Node.text source) = names ∧
      LabelledIn [none, some "name"] nodes := by
  induction names generalizing pre nodes with
  | nil =>
    obtain rfl := fits_nil h
    exact ⟨rfl, nofun⟩
  | cons name names ih =>
    rw [List.flatMap_cons, texts_append] at hs
    obtain ⟨comma, _, rfl, hcomma, -, -, -, h⟩ := fits_token h
    obtain ⟨n, rest, rfl, hname, -, -, hc, h⟩ := fits_token (fits_blank h)
    have hs : source = pre ++ ("," : Text) ++ (" " : Text) ++ name ++
        (texts (names.flatMap fun n => [sign ",", .blank " ", fieldName n]) ++ post) := by
      simpa [texts, Sketch.text, sign, fieldName] using hs
    have htext : n.text source = name := hs ▸ hc.text_eq _
    obtain ⟨hnames, hlabels⟩ := ih h (by simpa using hs)
    have hno : ¬ comma.labelled "name" = true := by simp [labelled_iff, hcomma]
    refine ⟨?_, ?_⟩
    · rw [List.filter_cons_of_neg hno, List.filter_cons_of_pos (labelled_iff.mpr hname),
        List.map_cons, htext, hnames]
    · refine List.forall_mem_cons.mpr ⟨?_, List.forall_mem_cons.mpr ⟨?_, hlabels⟩⟩
      · simp [hcomma]
      · simp [hname]

theorem names_of_fits (h : Fits pre (namesSketch names) nodes)
    (hs : source = pre ++ texts (namesSketch names) ++ post) :
    (nodes.filter (Node.labelled "name")).map (Node.text source) = names ∧
      LabelledIn [none, some "name"] nodes := by
  cases names with
  | nil =>
    obtain rfl := fits_nil h
    exact ⟨rfl, nofun⟩
  | cons name names =>
    rw [namesSketch, texts_append] at hs
    obtain ⟨l, r, rfl, hl, hr⟩ := fits_append h
    obtain rfl := fits_nil (fits_blank hr)
    obtain ⟨n, rest, rfl, hname, -, -, hc, hrest⟩ := fits_token hl
    have hs : source = pre ++ name ++
        texts (names.flatMap fun n => [sign ",", .blank " ", fieldName n]) ++
        ((" " : Text) ++ post) := by
      simpa [texts, Sketch.text, fieldName] using hs
    have htext : n.text source = name := by
      rw [hs, List.append_assoc]
      exact hc.text_eq _
    obtain ⟨hnames, hlabels⟩ := moreNames_of_fits hrest hs
    rw [List.append_nil]
    refine ⟨?_, List.forall_mem_cons.mpr ⟨by simp [hname], hlabels⟩⟩
    rw [List.filter_cons_of_pos (labelled_iff.mpr hname), List.map_cons, htext, hnames]

/-- The type ends where the written type does. It begins there, too, except behind the star of an
embedded type. -/
theorem type_of_fits (h : Fits pre f.typeSketch nodes)
    (hs : source = pre ++ texts f.typeSketch ++ post) :
    ∃ star type, nodes = star ++ [type] ∧ LabelledIn [none] star ∧
      type.label = some ("type" : Text) ∧ type.stop = (pre ++ f.type.source).utf8Size ∧
      (f.names.isEmpty = false → type.text source = f.type.source) := by
  rw [f.texts_typeSketch] at hs
  unfold Field.typeSketch at h
  split at h
  · next hp =>
    simp only [Bool.and_eq_true] at hp
    obtain ⟨star, _, rfl, hstar, -, -, -, h⟩ := fits_token h
    obtain ⟨type, rest, rfl, hlabel, -, -, hc, h⟩ := fits_token h
    obtain rfl := fits_nil h
    refine ⟨[star], type, rfl, by simp [LabelledIn, hstar], hlabel, ?_, fun hn => ?_⟩
    · rw [hc.stop, TypeName.source, if_pos hp.2]
      simp [Text.ofString]
    · rw [hp.1] at hn
      cases hn
  · obtain ⟨type, rest, rfl, hlabel, -, -, hc, h⟩ := fits_token h
    obtain rfl := fits_nil h
    exact ⟨[], type, rfl, by simp [LabelledIn], hlabel, hc.stop, fun _ => hs ▸ hc.text_eq post⟩

theorem tag_of_fits {tag : Option Text} (h : Fits pre (tagSketch tag) nodes)
    (hs : source = pre ++ texts (tagSketch tag) ++ post) :
    (nodes.find? (Node.labelled "tag")).map (Node.text source) = tag.map tagSource ∧
      LabelledIn [some "tag"] nodes := by
  cases tag with
  | none =>
    obtain rfl := fits_nil h
    exact ⟨rfl, nofun⟩
  | some tag =>
    obtain ⟨n, rest, rfl, hlabel, -, -, hc, h⟩ := fits_token (fits_blank h)
    obtain rfl := fits_nil h
    have hs : source = pre ++ (" " : Text) ++ tagSource tag ++ post := by
      simpa [tagSketch, texts, Sketch.text] using hs
    have htext : n.text source = tagSource tag := hs ▸ hc.text_eq post
    refine ⟨?_, by simp [LabelledIn, hlabel]⟩
    rw [List.find?_cons_of_pos (labelled_iff.mpr hlabel), Option.map_some, htext]
    rfl

/-- The labels tell the names, the type and the tag of a field apart. -/
theorem labelled_of_field {names star tags : List Node} {type : Node}
    (hn : LabelledIn [none, some "name"] names) (hs : LabelledIn [none] star)
    (ht : type.label = some ("type" : Text)) (hg : LabelledIn [some "tag"] tags) :
    (names ++ (star ++ [type] ++ tags)).filter (Node.labelled "name") =
        names.filter (Node.labelled "name") ∧
      (names ++ (star ++ [type] ++ tags)).find? (Node.labelled "type") = some type ∧
      (names ++ (star ++ [type] ++ tags)).find? (Node.labelled "tag") =
        tags.find? (Node.labelled "tag") := by
  have htypes : LabelledIn [some "type"] [type] := by simp [LabelledIn, ht]
  refine ⟨?_, ?_, ?_⟩
  · simp only [List.filter_append, hs.filter_eq_nil "name" (by decide),
      htypes.filter_eq_nil "name" (by decide), hg.filter_eq_nil "name" (by decide),
      List.append_nil]
  · simp only [List.find?_append, hn.find?_eq_none "type" (by decide),
      hs.find?_eq_none "type" (by decide), Option.none_or]
    rw [List.find?_cons_of_pos (labelled_iff.mpr ht), Option.some_or]
  · simp only [List.find?_append, hn.find?_eq_none "tag" (by decide),
      hs.find?_eq_none "tag" (by decide), htypes.find?_eq_none "tag" (by decide), Option.none_or]

theorem fieldDecl_of_found {p : Placed} (h : f.entry.Found source p) :
    fieldDecl source p = f.decl := by
  obtain ⟨pre, post, hs, hc, hi⟩ := h.holds
  obtain ⟨ns, rest, hchildren, hns, hrest⟩ := fits_append hi
  obtain ⟨ts, gs, rfl, hts, hgs⟩ := fits_append hrest
  simp only [Field.entry, texts_append] at hs
  obtain ⟨hnames, hnlabels⟩ := names_of_fits hns (by simpa using hs)
  obtain ⟨star, type, rfl, hstar, htype, hstop, htext⟩ := type_of_fits hts (by simpa using hs)
  obtain ⟨htag, hglabels⟩ := tag_of_fits hgs (by simpa using hs)
  obtain ⟨hname, hfind, hgfind⟩ := labelled_of_field hnlabels hstar htype hglabels
  have hempty : (ns.filter (Node.labelled "name")).isEmpty = f.names.isEmpty := by
    rw [← hnames, List.isEmpty_map]
  -- without names, the slice begins with the field itself, and so with the star
  have hslice : (if f.names.isEmpty then source.slice p.node.start type.stop
      else type.text source) = f.type.source := by
    cases hn : f.names.isEmpty with
    | false => exact htext hn
    | true =>
      rw [List.isEmpty_iff] at hn
      rw [if_pos rfl, hc.start, hstop, hs, hn, f.texts_typeSketch]
      simpa [namesSketch, texts] using
        slice_append pre f.type.source (texts (tagSketch f.tag) ++ post)
  rw [fieldDecl, Field.decl, h.doc]
  simp only [hchildren, hname, hnames, hgfind, htag, hfind, hempty, Option.elim_some, hslice]
  rfl

end StructCli.Go.Outline
