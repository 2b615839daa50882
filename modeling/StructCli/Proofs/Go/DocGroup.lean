import StructCli.Go.Grammar.File
import StructCli.Proofs.Go.Sites

/-! # Trailing comments in doc groups

A comment is trailing if something other than a comment ends on its row before it. The group above
a site leaves out the first trailing comment of a row, and everything before it. It may hold the
comments that follow that one on the row, since these follow a comment.
-/

namespace StructCli.Go

open RowSpan

def Sibling.comment? (s : Sibling) : Option Text :=
  match s.kind with
  | .comment text => some text
  | _ => none

namespace Doc

/-- The siblings that the doc above `row` spans: its comments, and the terminators that stand
after each of them. -/
def group (row : Nat) : List Sibling → List Sibling
  | [] => []
  | s :: before =>
    match s.kind with
    | .terminator => s :: group row before
    | .other => []
    | .comment _ =>
      if s.endRow + 1 < row ∨ isTrailing s.row before then [] else s :: group s.row before

/-- Comments and terminators only, and no row without a comment from the last of them to `row`. -/
def Adjoins : Nat → List Sibling → Prop
  | _, [] => True
  | row, s :: near =>
    match s.kind with
    | .terminator => Adjoins row near
    | .other => False
    | .comment _ => row ≤ s.endRow + 1 ∧ Adjoins s.row near

/-- The nearest thing other than a terminator is a comment. -/
def FollowsComment : List Sibling → Prop
  | [] => False
  | s :: before =>
    match s.kind with
    | .terminator => FollowsComment before
    | .other => False
    | .comment _ => True

/-- Something other than a comment or a terminator ends on the row. -/
def RowTaken (row : Nat) (far : List Sibling) : Prop := ∃ t ∈ far, t.kind = .other ∧ t.endRow = row

/-- The doc of a site is the text of a block of comments that the site follows. -/
structure MadeOf (site : Site) (doc : Text) (block : List Sibling) : Prop where
  begins : block <+: site.before
  text : doc = Comment.groupText (block.filterMap Sibling.comment?).reverse

/-- The block behind a doc reaches back to a comment if nothing but comments stand from there on,
without blank rows, and the comment follows another one where its row is taken. -/
def Grouped (site : Site) (doc : Text) : Prop :=
  ∃ block, MadeOf site doc block ∧ ∀ near c far, site.before = near ++ c :: far →
    c.comment?.isSome → (near ++ [c] <+: block ↔
      Adjoins site.row (near ++ [c]) ∧ (RowTaken c.row far → FollowsComment far))

/-- No comment on a row that is taken is in the block behind a doc. -/
def LeavesOutTrailing (site : Site) (doc : Text) : Prop :=
  ∃ block, MadeOf site doc block ∧ ∀ near c far, site.before = near ++ c :: far →
    c.comment?.isSome → RowTaken c.row far → ¬ near ++ [c] <+: block

variable {row : Nat} {c : Sibling} {near far before : List Sibling}

theorem comments_eq_group (row : Nat) (before : List Sibling) :
    comments row before = (group row before).filterMap Sibling.comment? := by
  induction before generalizing row with
  | nil => rfl
  | cons s before ih =>
    rw [comments, group]
    cases hk : s.kind with
    | terminator => simp [Sibling.comment?, hk, ih]
    | other => rfl
    | comment text =>
      dsimp only
      split
      · rfl
      · simp [Sibling.comment?, hk, ih]

theorem above_eq_group (row : Nat) (before : List Sibling) :
    above row before =
      Comment.groupText ((group row before).filterMap Sibling.comment?).reverse := by
  rw [above, comments_eq_group]

theorem not_isTrailing_of_adjoins (row' : Nat) (h : Adjoins row (near ++ [c]))
    (hc : c.comment?.isSome) : isTrailing row' (near ++ c :: far) = false := by
  induction near with
  | nil =>
    rw [List.nil_append, isTrailing]
    cases hk : c.kind <;> simp_all [Sibling.comment?]
  | cons s near ih =>
    rw [List.cons_append, isTrailing]
    rw [List.cons_append, Adjoins] at h
    cases hk : s.kind with
    | terminator => exact ih (by simpa [hk] using h)
    | other => simp [hk] at h
    | comment text => rfl

/-- The group reaches as far as the comments do, unless the last one follows something else on its
row. -/
theorem prefix_group_iff (hc : c.comment?.isSome) :
    near ++ [c] <+: group row (near ++ c :: far) ↔
      Adjoins row (near ++ [c]) ∧ isTrailing c.row far = false := by
  induction near generalizing row with
  | nil =>
    obtain ⟨text, hk⟩ : ∃ text, c.kind = .comment text := by
      cases hk : c.kind <;> simp_all [Sibling.comment?]
    simp only [List.nil_append, group, Adjoins, hk, and_true]
    rw [← Bool.not_eq_true, ← Nat.not_lt, ← not_or]
    split
    · next h => simp [h]
    · next h => simp [h]
  | cons s near ih =>
    simp only [List.cons_append, group, Adjoins]
    cases hk : s.kind with
    | terminator => simp [ih]
    | other => simp
    | comment text =>
      dsimp only
      split
      · next h =>
        simp only [List.prefix_nil, reduceCtorEq, false_iff]
        rintro ⟨⟨hrow, hadj⟩, -⟩
        simp only [not_isTrailing_of_adjoins _ hadj hc, Bool.false_eq_true, or_false] at h
        omega
      · next h =>
        rw [List.cons_prefix_cons, ih]
        simp only [true_and]
        constructor
        · exact fun ⟨hadj, ht⟩ => ⟨⟨by omega, hadj⟩, ht⟩
        · exact fun ⟨⟨_, hadj⟩, ht⟩ => ⟨hadj, ht⟩

theorem rowTaken_of_isTrailing (h : isTrailing row far = true) : RowTaken row far := by
  induction far with
  | nil => cases h
  | cons s far ih =>
    rw [isTrailing] at h
    cases hk : s.kind with
    | comment text => simp [hk] at h
    | terminator =>
      obtain ⟨t, ht, htaken⟩ := ih (by simpa [hk] using h)
      exact ⟨t, List.mem_cons_of_mem s ht, htaken⟩
    | other => exact ⟨s, List.mem_cons_self, hk, by simpa [hk] using h⟩

/-- Of the things before a trailing comment, the nearest one decides: rows are in order, so that
nothing between two things that end on the comment's row ends on another one. -/
theorem isTrailing_eq_false_iff_of_rowTaken (ho : Ordered 0 (Sibling.spans far ++ [(row, row)]))
    (ht : RowTaken row far) : isTrailing row far = false ↔ FollowsComment far := by
  induction far with
  | nil => simp [RowTaken] at ht
  | cons s far ih =>
    obtain ⟨t, hmem, hk, he⟩ := ht
    rw [isTrailing, FollowsComment]
    rw [Sibling.spans_cons] at ho
    cases hs : s.kind with
    | comment text => simp
    | terminator =>
      rcases List.mem_cons.mp hmem with rfl | hmem
      · cases hk.symm.trans hs
      · refine ih (ho.sublist ?_) ⟨t, hmem, hk, he⟩
        exact (List.sublist_append_left _ _).append (List.Sublist.refl _)
    | other =>
      have hspan := Sibling.spans_singleton (s := s) (by simp [hs])
      rw [hspan, List.append_assoc, List.singleton_append] at ho
      obtain ⟨hfar, hlast, hle, hrow, -⟩ := ordered_append.mp ho
      simp only [decide_eq_false_iff_not, iff_false, Classical.not_not]
      rcases List.mem_cons.mp hmem with rfl | hmem
      · exact he
      · have hte := hfar.last_le _ (Sibling.mem_spans hmem (by simp [hk]))
        dsimp only at hte hle
        omega

theorem isTrailing_eq_false_iff (ho : Ordered 0 (Sibling.spans far ++ [(row, row)])) :
    isTrailing row far = false ↔ (RowTaken row far → FollowsComment far) := by
  by_cases ht : RowTaken row far
  · simp only [isTrailing_eq_false_iff_of_rowTaken ho ht, ht, true_imp_iff]
  · simp only [ht, false_imp_iff, iff_true, ← Bool.not_eq_true]
    exact fun h => ht (rowTaken_of_isTrailing h)

theorem group_begins (row : Nat) (before : List Sibling) : group row before <+: before := by
  induction before generalizing row with
  | nil => exact List.prefix_refl _
  | cons s before ih =>
    rw [group]
    split
    · exact (List.prefix_cons_inj s).mpr (ih row)
    · exact List.nil_prefix
    · split
      · exact List.nil_prefix
      · exact (List.prefix_cons_inj s).mpr (ih s.row)

theorem grouped_of_inOrder {site : Site} (h : site.InOrder) :
    Grouped site (above site.row site.before) := by
  refine ⟨group site.row site.before, ⟨group_begins _ _, above_eq_group _ _⟩, ?_⟩
  intro near c far hbefore hc
  rw [Site.InOrder, hbefore, Sibling.spans_append, Sibling.spans_cons, List.append_assoc,
    List.append_assoc,
    Sibling.spans_singleton (fun hk => by simp [Sibling.comment?, hk] at hc)] at h
  obtain ⟨hfar, hrow, -⟩ := ordered_append.mp h
  rw [hbefore, prefix_group_iff hc,
    isTrailing_eq_false_iff (ordered_append.mpr ⟨hfar, hrow, Nat.le_refl _, trivial⟩)]

end Doc

/-- Of the comments on a row that is taken, the doc of a package clause, a type or a field may hold
those that follow another comment. -/
theorem trailing_comment_in_doc_iff {parse : TreeParser} {bytes : List UInt8} {filename : Text}
    {p : PackageDecl} (ho : (parse bytes).root.InOrder)
    (h : (declarationParser parse filename bytes).outcome = .ok p) :
    ∃ chars, Utf8.decode bytes = .ok chars ∧
      DocsHave Doc.Grouped (chars.map .scalar) (parse bytes).root p :=
  docsHave_of_outcome ho (fun _ => Doc.grouped_of_inOrder) h

namespace TwoComments

/-- Two comments stand on the row of the first field. -/
def text : String := "package p\n\ntype T struct \x7b\n\tA int /* a */ // b\n\tB int\n\x7d\n"

def source : List UInt8 := text.toUTF8.data.toList

def declared : PackageDecl := {
  name := "p"
  types := [{ name := "T", kind := structKind, fields := some [
    { names := ["A"], type := "int" },
    { names := ["B"], doc := "b", type := "int" }] }] }

def second : Sibling := ⟨.comment "// b", 3, 3⟩

def far : List Sibling := [⟨.comment "/* a */", 3, 3⟩, ⟨.other, 3, 3⟩, ⟨.other, 2, 2⟩]

def siteOfA : Doc.Site := ⟨3, [⟨.other, 2, 2⟩]⟩

def siteOfB : Doc.Site := ⟨4, ⟨.terminator, 3, 4⟩ :: second :: far⟩

theorem rowTaken : Doc.RowTaken second.row far := ⟨⟨.other, 3, 3⟩, by decide, rfl, rfl⟩

theorem fieldSites_source :
    fieldSites (Text.ofString text) (readTree source).root = [siteOfA, siteOfB] := by
  decide +kernel

theorem outcome_source : (readPackage "p.go" source).outcome = .ok declared := by
  decide +kernel

theorem second_in_doc : (readPackage "p.go" source).outcome = .ok declared ∧
    (readTree source).root.InOrder ∧ ∃ block, Doc.MadeOf siteOfB "b" block ∧
      [⟨.terminator, 3, 4⟩, second] <+: block := by
  have horder : (readTree source).root.InOrder := by decide +kernel
  have hdocs := docsHave_of_string (trailing_comment_in_doc_iff horder outcome_source)
  have hfields : List.Forall₂ Doc.Grouped [siteOfA, siteOfB] [[], "b"] :=
    fieldSites_source ▸ hdocs.fields
  obtain _ | ⟨-, _ | ⟨⟨block, hmade, hblock⟩, -⟩⟩ := hfields
  refine ⟨outcome_source, horder, block, hmade, ?_⟩
  exact (hblock [⟨.terminator, 3, 4⟩] second far rfl rfl).mpr
    ⟨⟨by decide, trivial⟩, fun _ => trivial⟩

/-- The doc of the second field is the second comment on the row of the first one. -/
theorem not_always_left_out : (readPackage "p.go" source).outcome = .ok declared ∧
    ¬ DocsHave Doc.LeavesOutTrailing (Text.ofString text) (readTree source).root declared := by
  refine ⟨outcome_source, fun hdocs => ?_⟩
  have hfields : List.Forall₂ Doc.LeavesOutTrailing [siteOfA, siteOfB] [[], "b"] :=
    fieldSites_source ▸ hdocs.fields
  obtain _ | ⟨-, _ | ⟨⟨block, ⟨hbegins, htext⟩, hout⟩, -⟩⟩ := hfields
  have hnot := hout [⟨.terminator, 3, 4⟩] second far rfl rfl rowTaken
  rcases List.prefix_cons_iff.mp hbegins with rfl | ⟨rest, rfl, hrest⟩
  · exact absurd htext (by decide)
  · rcases List.prefix_cons_iff.mp hrest with rfl | ⟨rest, rfl, -⟩
    · exact absurd htext (by decide)
    · exact hnot ⟨rest, rfl⟩

end TwoComments

end StructCli.Go
