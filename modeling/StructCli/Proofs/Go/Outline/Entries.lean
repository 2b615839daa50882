import Mathlib.Data.List.Forall2
import StructCli.Proofs.Go.Outline.Docs
import StructCli.Proofs.Go.Rows

/-! # Entries

Phrases on lines of their own, each below its doc, are found one by one among the nodes that they
and their docs give, and each of them has the doc that is written above it.
-/

namespace StructCli.Go

open Sketch

/-- The node stands in the source for the given parts, and its children are theirs. -/
def Node.Holds (source : Text) (parts : List Sketch) (n : Node) : Prop :=
  ∃ pre post, source = pre ++ texts parts ++ post ∧ n.Covers pre (texts parts) ∧
    Fits pre parts n.children

namespace Outline

/-- The phrase has been found in its place. -/
structure Entry.Found (source : Text) (e : Entry) (p : Placed) : Prop where
  doc : p.doc source = e.doc.text
  named : p.node.named = true
  kind : p.node.kind = e.kind
  holds : p.node.Holds source e.parts

variable {source pre kind : Text} {indent : Indent} {e : Entry} {es : List Entry}
  {nodes ends : List Node} {row : Nat} {before : List Sibling}

theorem is_of_found {p : Placed} (h : e.Found source p) (kind : Text) :
    p.node.is kind = decide (e.kind = kind) := by
  rw [Node.is, h.named, h.kind, Bool.true_and]

theorem filter_ofSiblings_eq_nil (h : ∀ n ∈ nodes, n.is kind = false) (beside : List Node) :
    (Placed.ofSiblings beside nodes).filter (·.node.is kind) = [] := by
  refine List.filter_eq_nil_iff.mpr fun p hp => ?_
  obtain ⟨l, r, hn, -⟩ := Placed.mem_ofSiblings hp
  simp [h p.node (by simp [hn])]

theorem is_eq_false_of_terminator {n : Node} (h : n.isTerminator = true) (kind : Text) :
    n.is kind = false := by
  rw [Node.isTerminator, Bool.and_eq_true, Bool.not_eq_true'] at h
  simp [Node.is, h.1]

theorem Fresh.terminators (h : ∀ n ∈ ends, n.isTerminator = true) (hf : Fresh row before) :
    Fresh row (ends.reverse.map (Node.sibling source) ++ before) := by
  induction ends generalizing before with
  | nil => exact hf
  | cons n ends ih =>
    obtain ⟨hn, hends⟩ := List.forall_mem_cons.mp h
    rw [List.reverse_cons, List.map_append, List.append_assoc]
    refine ih hends ?_
    rw [List.map_singleton, sibling_of_terminator source hn]
    exact hf.terminator

/-- Behind a phrase and the end of its line, a new group of comments begins. -/
theorem fresh_after (source : Text) (beside : List Node) {n : Node} {text : Text}
    (hn : n.named = true) (hk : n.kind ≠ "comment") (hc : n.Covers pre text)
    (h : ∀ n ∈ ends, n.isTerminator = true) :
    Fresh (pre ++ text ++ "\n").lineFeeds
      ((ends.reverse ++ n :: beside).map (Node.sibling source)) := by
  rw [List.map_append, List.map_cons, sibling_of_named source hn hk]
  exact Fresh.terminators h (fresh_other (endRow_lt_of_covers hc))

/-- The doc stands between what is beside the phrase and the phrase itself. -/
theorem exists_found_of_fits (beside : List Node) (post : Text) (hk : e.kind ≠ "comment")
    (h : Fits pre (e.sketch indent) nodes)
    (hs : source = pre ++ texts (e.sketch indent) ++ post)
    (hf : Fresh pre.lineFeeds (beside.map (Node.sibling source))) :
    ∃ p, e.Found source p ∧
      (∀ kind : Text, kind ≠ "comment" →
        (Placed.ofSiblings beside nodes).filter (·.node.is kind) =
          [p].filter (·.node.is kind)) ∧
      Fresh (pre ++ texts (e.sketch indent)).lineFeeds
        ((nodes.reverse ++ beside).map (Node.sibling source)) := by
  obtain ⟨comments, rest, rfl, hdoc, h⟩ := fits_append (fits_blank h)
  obtain ⟨n, ends, rfl, -, hkind, hn, hc, hi, h⟩ := fits_phrase (fits_blank h)
  have hends := isTerminator_of_fits_lineEnd h
  have htexts : pre ++ texts (e.sketch indent) = pre ++ e.gap ++ texts (e.doc.sketch indent) ++
      indent.text ++ texts e.parts ++ ("\n" : Text) := by
    simp [Entry.sketch, texts, Sketch.text]
  rw [htexts] at hs
  have hsource : source = pre ++ e.gap ++ texts (e.doc.sketch indent) ++
      (indent.text ++ texts e.parts ++ ("\n" : Text) ++ post) := by simpa using hs
  obtain ⟨hsiblings, hcomments, hcount⟩ := docSiblings_of_fits beside e.doc.plain hdoc hsource
  have hrow : n.row = (pre ++ e.gap).lineFeeds + e.doc.lines.length := by
    simp [hc.row, DocLines.sketch, hcount, Nat.add_assoc]
  have hfresh : Fresh (pre ++ e.gap).lineFeeds (beside.map (Node.sibling source)) :=
    hf.mono (by simp)
  refine ⟨⟨n, comments.reverse ++ beside⟩, ⟨?_, hn, hkind, ?_⟩, fun kind hne => ?_, ?_⟩
  · rw [Placed.doc, Placed.site]
    dsimp only
    rw [hrow, hsiblings, above_docSiblings hfresh]
  · exact ⟨_, ("\n" : Text) ++ post, by simpa using hs, hc, hi⟩
  · have hleft : ∀ m ∈ comments, m.is kind = false := fun m hm => by
      simp [Node.is, hcomments m hm, hne.symm]
    rw [Placed.ofSiblings_append, Placed.ofSiblings, List.filter_append,
      filter_ofSiblings_eq_nil hleft, List.nil_append, List.filter_cons,
      filter_ofSiblings_eq_nil fun m hm => is_eq_false_of_terminator (hends m hm) kind,
      List.filter_cons, List.filter_nil]
  · simpa [htexts] using fresh_after source (comments.reverse ++ beside) hn (hkind ▸ hk) hc hends

/-- The induction is on the entries. What has been passed is fresh for the next one. -/
theorem exists_forall₂_found (beside : List Node) (post : Text) (hk : ∀ e ∈ es, e.kind ≠ "comment")
    (h : Fits pre (es.flatMap (Entry.sketch indent)) nodes)
    (hs : source = pre ++ texts (es.flatMap (Entry.sketch indent)) ++ post)
    (hf : Fresh pre.lineFeeds (beside.map (Node.sibling source))) :
    ∃ ps, List.Forall₂ (Entry.Found source) es ps ∧ ∀ kind : Text, kind ≠ "comment" →
      (Placed.ofSiblings beside nodes).filter (·.node.is kind) =
        ps.filter (·.node.is kind) := by
  induction es generalizing pre nodes beside with
  | nil =>
    obtain rfl := fits_nil h
    exact ⟨[], .nil, fun _ _ => rfl⟩
  | cons e es ih =>
    obtain ⟨hke, hk⟩ := List.forall_mem_cons.mp hk
    rw [List.flatMap_cons] at h hs
    rw [texts_append] at hs
    obtain ⟨l, r, rfl, hl, hr⟩ := fits_append h
    obtain ⟨p, hp, hfound, hfresh⟩ := exists_found_of_fits beside
      (texts (es.flatMap (Entry.sketch indent)) ++ post) hke hl (by simpa using hs) hf
    obtain ⟨ps, hps, hrest⟩ := ih (l.reverse ++ beside) hk hr (by simpa using hs) hfresh
    refine ⟨p :: ps, .cons hp hps, fun kind hne => ?_⟩
    rw [Placed.ofSiblings_append, List.filter_append, hfound kind hne, hrest kind hne,
      ← List.filter_append, List.singleton_append]

end Outline

end StructCli.Go
