import StructCli.Proofs.Go.CommentText
import StructCli.Proofs.Go.Outline.Layout

/-! # The docs of an outline

The lines of a doc, written as comments, are read back. They make up the whole group above what
they stand on, since the thing before them ends on a row above. So every phrase on a line of its
own has the doc that is written above it.
-/

namespace StructCli.Go.Outline

open Comment

/-! ## The text of the comments -/

theorem rawLines_lineComment (line : Text) : rawLines (lineComment line) = [line] := by
  unfold lineComment
  split
  · next h =>
    subst h
    decide
  · exact rawLines_spaced line

theorem groupText_doc (doc : DocLines) : groupText (doc.lines.map lineComment) = doc.text := by
  have hraw : (doc.lines.map lineComment).flatMap rawLines = doc.lines := by
    rw [List.flatMap_map]
    simp [rawLines_lineComment]
  have hstrip : doc.lines.map Text.stripEnd = doc.lines :=
    (List.map_congr_left doc.trimmed).trans (List.map_id _)
  rw [groupText, hraw, hstrip, tidy_eq_self doc.first doc.last doc.apart]
  rfl

/-! ## The group of comments -/

/-- What stands beside the thing below some comments, one to a row from `row` on. -/
def docSiblings (row : Nat) (before : List Sibling) : List Text → List Sibling
  | [] => before
  | line :: lines =>
    docSiblings (row + 1) (⟨.comment (lineComment line), row, row⟩ :: before) lines

/-- The nearest thing other than a terminator, if there is one, is no comment and ends above
`row`: comments on `row` begin a new group. -/
def Fresh (row : Nat) : List Sibling → Prop
  | [] => True
  | s :: before =>
    match s.kind with
    | .terminator => Fresh row before
    | .other => s.endRow < row
    | .comment _ => False

variable {row row' : Nat} {before : List Sibling}

theorem fresh_nil (row : Nat) : Fresh row [] := trivial

theorem fresh_other {first last : Nat} (h : last < row) :
    Fresh row (⟨.other, first, last⟩ :: before) := h

theorem Fresh.terminator {first last : Nat} (h : Fresh row before) :
    Fresh row (⟨.terminator, first, last⟩ :: before) := h

theorem Fresh.mono (h : Fresh row before) (hr : row ≤ row') : Fresh row' before := by
  induction before with
  | nil => trivial
  | cons s before ih =>
    unfold Fresh at h ⊢
    cases hk : s.kind with
    | terminator => exact ih (by simpa [hk] using h)
    | other => exact Nat.lt_of_lt_of_le (by simpa [hk] using h) hr
    | comment text => simp [hk] at h

theorem Fresh.isTrailing (h : Fresh row before) : Doc.isTrailing row before = false := by
  induction before with
  | nil => rfl
  | cons s before ih =>
    unfold Fresh at h
    unfold Doc.isTrailing
    cases hk : s.kind with
    | terminator => exact ih (by simpa [hk] using h)
    | other =>
      have hlt : s.endRow < row := by simpa [hk] using h
      simpa using Nat.ne_of_lt hlt
    | comment text => rfl

theorem Fresh.comments (h : Fresh row before) : Doc.comments row before = [] := by
  induction before with
  | nil => rfl
  | cons s before ih =>
    unfold Fresh at h
    unfold Doc.comments
    cases hk : s.kind with
    | terminator => exact ih (by simpa [hk] using h)
    | other => rfl
    | comment text => simp [hk] at h

theorem comments_docSiblings (h : Doc.isTrailing row before = false) (lines : List Text) :
    Doc.comments (row + lines.length) (docSiblings row before lines) =
      (lines.map lineComment).reverse ++ Doc.comments row before := by
  induction lines generalizing row before with
  | nil => rfl
  | cons line lines ih =>
    have hnext : Doc.isTrailing (row + 1) (⟨.comment (lineComment line), row, row⟩ :: before) =
        false := rfl
    have hlength : row + (line :: lines).length = row + 1 + lines.length := by
      simp only [List.length_cons]
      omega
    rw [docSiblings, hlength, ih hnext]
    simp [Doc.comments, h]

theorem above_docSiblings (h : Fresh row before) (doc : DocLines) :
    Doc.above (row + doc.lines.length) (docSiblings row before doc.lines) = doc.text := by
  rw [Doc.above, comments_docSiblings h.isTrailing, h.comments, List.append_nil,
    List.reverse_reverse, groupText_doc]

/-! ## The nodes of comments -/

open Sketch

variable {source text pre post kind : Text} {indent : Indent} {n : Node} {nodes : List Node}

theorem sibling_of_named (source : Text) (hn : n.named = true) (hk : n.kind ≠ "comment") :
    n.sibling source = ⟨.other, n.row, n.endRow⟩ := by
  simp [Node.sibling, Node.isTerminator, hn, hk]

theorem sibling_of_comment (source : Text) (hn : n.named = true) (hk : n.kind = "comment") :
    n.sibling source = ⟨.comment (n.text source), n.row, n.endRow⟩ := by
  simp [Node.sibling, Node.isTerminator, hn, hk]

theorem sibling_of_terminator (source : Text) (h : n.isTerminator = true) :
    n.sibling source = ⟨.terminator, n.row, n.endRow⟩ := by
  simp [Node.sibling, h]

/-- A token that is spelled as its kind is no terminator and no comment, unless it looks like
one. -/
theorem sibling_of_sign (source : Text) {spelling : Text} (hn : n.named = false)
    (hk : n.kind = spelling) (hs : spelling ≠ "\n" ∧ spelling ≠ ";" ∧ spelling ≠ "comment") :
    n.sibling source = ⟨.other, n.row, n.endRow⟩ := by
  simp [Node.sibling, Node.isTerminator, hn, hk, hs]

theorem lineFeeds_of_not_mem (h : .scalar '\n' ∉ text) : text.lineFeeds = 0 :=
  List.count_eq_zero.mpr h

@[simp] theorem lineFeeds_lineFeed : ("\n" : Text).lineFeeds = 1 := rfl

theorem endRow_lt_of_covers (h : n.Covers pre text) :
    n.endRow < (pre ++ text ++ "\n").lineFeeds := by
  rw [h.endRow, lineFeeds_append _ ("\n" : Text), lineFeeds_lineFeed]
  exact Nat.lt_succ_self _

@[simp] theorem Indent.lineFeeds_text (indent : Indent) : indent.text.lineFeeds = 0 :=
  lineFeeds_of_not_mem fun h => by rcases indent.blank _ h with h | h <;> cases h

theorem lineFeeds_lineComment {line : Text} (h : .scalar '\n' ∉ line) :
    (lineComment line).lineFeeds = 0 := by
  refine lineFeeds_of_not_mem fun hm => ?_
  unfold lineComment at hm
  split at hm <;> simp_all [Text.ofString]

/-- The induction is on the lines, each of which gives one comment on a row of its own. -/
theorem docSiblings_of_fits (beside : List Node) {lines : List Text} (hplain : ∀ l ∈ lines, .scalar '\n' ∉ l)
    (h : Fits pre (lines.flatMap (commentSketch indent)) nodes)
    (hs : source = pre ++ texts (lines.flatMap (commentSketch indent)) ++ post) :
    (nodes.reverse ++ beside).map (Node.sibling source) =
        docSiblings pre.lineFeeds (beside.map (Node.sibling source)) lines ∧
      (∀ n ∈ nodes, n.kind = "comment") ∧
      (texts (lines.flatMap (commentSketch indent))).lineFeeds = lines.length := by
  induction lines generalizing pre nodes beside with
  | nil =>
    obtain rfl := fits_nil h
    exact ⟨rfl, nofun, rfl⟩
  | cons line lines ih =>
    obtain ⟨hline, hplain⟩ := List.forall_mem_cons.mp hplain
    have hline := lineFeeds_lineComment hline
    rw [List.flatMap_cons, texts_append] at hs
    obtain ⟨n, rest, rfl, -, hk, hn, hc, h⟩ := fits_token (fits_blank h)
    have hsibling : n.sibling source = ⟨.comment (lineComment line), pre.lineFeeds,
        pre.lineFeeds⟩ := by
      have htext : n.text source = lineComment line := by
        rw [hs]
        simpa [commentSketch, texts, Sketch.text] using
          hc.text_eq ("\n" ++ texts (lines.flatMap (commentSketch indent)) ++ post)
      rw [sibling_of_comment source hn hk, htext, hc.row, hc.endRow]
      simp [hline]
    have hnext : (pre ++ indent.text ++ lineComment line ++ "\n").lineFeeds =
        pre.lineFeeds + 1 := by
      simp [hline]
    obtain ⟨hsiblings, hkinds, hcount⟩ := ih (n :: beside) hplain (fits_blank h)
      (by simpa [commentSketch, texts, Sketch.text] using hs)
    refine ⟨?_, List.forall_mem_cons.mpr ⟨hk, hkinds⟩, ?_⟩
    · rw [hnext, List.map_append, List.map_cons, hsibling] at hsiblings
      rw [List.reverse_cons, List.append_assoc, docSiblings, ← hsiblings]
      simp [hsibling]
    · rw [List.flatMap_cons, texts_append, lineFeeds_append, hcount]
      simp [commentSketch, texts, Sketch.text, hline, Nat.add_comm]

end StructCli.Go.Outline
