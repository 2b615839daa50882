import Mathlib.Data.List.Forall2
import Mathlib.Data.List.Induction
import StructCli.Proofs.Go.DocBlock

/-! # Blank rows

A blank row cuts the doc of a site off from all that stands above the row. What is there may be
changed at will or left out, and what is below may be moved as a whole: the doc stays the same.
-/

namespace StructCli.Go.Doc

/-- The row on which the first of some things above `row` starts, or `row` if there are none. -/
def firstRow (row : Nat) (near : List Sibling) : Nat := (near.head?.map Sibling.row).getD row

/-- What stands before a site, in the order of the source, falls into two parts. The first one is
empty, or ends two rows or more above the start of the second one and the site. -/
structure BlankRowBetween (far near : List Sibling) (site : Site) : Prop where
  parts : preceding site.before = far ++ near
  gap : ∀ t ∈ far.getLast?, t.endRow + 2 ≤ firstRow site.row near

structure Moved (k : Int) (s s' : Sibling) : Prop where
  kind : s'.kind = s.kind
  row : (s'.row : Int) = s.row + k
  endRow : (s'.endRow : Int) = s.endRow + k

variable {k : Int} {row row' : Nat} {s : Sibling} {far near near' : List Sibling}

theorem firstRow_concat (row : Nat) (near : List Sibling) (s : Sibling) :
    firstRow row (near ++ [s]) = firstRow s.row near := by
  cases near <;> rfl

/-! ## What stands above a blank row -/

theorem nothing_above_gap (hk : ∀ s ∈ far, s.kind ≠ .terminator)
    (hgap : ∀ t ∈ far.getLast?, t.endRow + 2 ≤ row) :
    isTrailing row far.reverse = false ∧ comments row far.reverse = [] := by
  rcases far.eq_nil_or_concat with rfl | ⟨far, t, rfl⟩
  · exact ⟨rfl, rfl⟩
  · have ht := hk t (by simp)
    have hrow := hgap t (by simp)
    rw [List.concat_eq_append, List.reverse_concat, isTrailing, comments]
    cases hkind : t.kind with
    | terminator => exact absurd hkind ht
    | comment _ => exact ⟨rfl, if_pos (.inl (by omega))⟩
    | other => exact ⟨decide_eq_false (by omega), rfl⟩

theorem isTrailing_append_of_gap (hk : ∀ s ∈ far ++ near, s.kind ≠ .terminator)
    (hgap : ∀ t ∈ far.getLast?, t.endRow + 2 ≤ firstRow row near) :
    isTrailing row (far ++ near).reverse = isTrailing row near.reverse := by
  rcases near.eq_nil_or_concat with rfl | ⟨near, s, rfl⟩
  · rw [List.append_nil] at hk ⊢
    exact (nothing_above_gap hk hgap).1
  · have hs := hk s (by simp)
    rw [List.concat_eq_append, ← List.append_assoc, List.reverse_concat, List.reverse_concat,
      isTrailing, isTrailing]
    cases hkind : s.kind with
    | terminator => exact absurd hkind hs
    | comment _ => rfl
    | other => rfl

/-- The comments above a row end at the blank row. The induction goes through the things below it
from the row on backwards. -/
theorem comments_append_of_gap (hk : ∀ s ∈ far ++ near, s.kind ≠ .terminator)
    (hgap : ∀ t ∈ far.getLast?, t.endRow + 2 ≤ firstRow row near) :
    comments row (far ++ near).reverse = comments row near.reverse := by
  induction near using List.reverseRecOn generalizing row with
  | nil =>
    rw [List.append_nil] at hk ⊢
    exact (nothing_above_gap hk hgap).2
  | append_singleton near s ih =>
    have hs := hk s (by simp)
    rw [firstRow_concat] at hgap
    rw [← List.append_assoc] at hk ⊢
    have hk : ∀ s ∈ far ++ near, s.kind ≠ .terminator :=
      fun s hs => hk s (List.mem_append_left _ hs)
    rw [List.reverse_concat, List.reverse_concat, comments, comments]
    cases hkind : s.kind with
    | terminator => exact absurd hkind hs
    | comment _ => simp only [isTrailing_append_of_gap hk hgap, ih hk hgap]
    | other => rfl

theorem BlankRowBetween.comments_eq {site : Site} (h : BlankRowBetween far near site) :
    comments site.row site.before = comments site.row near.reverse := by
  have hk : ∀ s ∈ far ++ near, s.kind ≠ .terminator :=
    fun s hs => ne_terminator_of_mem_preceding (h.parts ▸ hs)
  rw [← comments_preceding, h.parts, comments_append_of_gap hk h.gap]

/-! ## What is moved as a whole -/

theorem isTrailing_of_moved (hrow : (row' : Int) = row + k)
    (h : List.Forall₂ (Moved k) near near') : isTrailing row' near' = isTrailing row near := by
  induction h with
  | nil => rfl
  | cons hs _ ih =>
    rw [isTrailing, isTrailing, hs.kind]
    have hend := hs.endRow
    split
    · exact ih
    · rfl
    · apply decide_eq_decide.mpr
      omega

theorem comments_of_moved (hrow : (row' : Int) = row + k)
    (h : List.Forall₂ (Moved k) near near') : comments row' near' = comments row near := by
  induction h generalizing row row' with
  | nil => rfl
  | @cons s s' near near' hs hnear ih =>
    rw [comments, comments, hs.kind, isTrailing_of_moved hs.row hnear, ih hs.row]
    have hend : s'.endRow + 1 < row' ↔ s.endRow + 1 < row := by
      have := hs.endRow
      omega
    simp only [ih hrow, hend]

/-- The doc of a site is that of every other site that has the same things below a blank row,
whatever stands above it, and however many rows the two sites are apart. -/
theorem doc_below_blank_row {site site' : Site} {far near far' near' : List Sibling} {k : Int}
    (h : BlankRowBetween far near site) (h' : BlankRowBetween far' near' site')
    (hrow : (site'.row : Int) = site.row + k) (hnear : List.Forall₂ (Moved k) near near') :
    above site'.row site'.before = above site.row site.before := by
  have hmoved := comments_of_moved hrow (List.forall₂_reverse_iff.mpr hnear)
  rw [above, above, h.comments_eq, h'.comments_eq, hmoved]

namespace Notice

/-- A notice stands above the blank row, and the second line of a doc ends what is below it. -/
def site : Site :=
  ⟨10, [⟨.comment "// B.", 9, 9⟩, ⟨.comment "/* A. */", 8, 8⟩, ⟨.terminator, 7, 7⟩,
    ⟨.comment "/* Notice. */", 2, 6⟩, ⟨.terminator, 1, 1⟩, ⟨.other, 0, 0⟩]⟩

/-- A declaration has taken the place of the notice, five rows further down. -/
def below : Site :=
  ⟨15, [⟨.comment "// B.", 14, 14⟩, ⟨.comment "/* A. */", 13, 13⟩, ⟨.other, 3, 11⟩]⟩

/-- Nothing but the doc is left, at the very beginning. -/
def alone : Site := ⟨2, [⟨.comment "// B.", 1, 1⟩, ⟨.comment "/* A. */", 0, 0⟩]⟩

theorem same_doc : above below.row below.before = above site.row site.before ∧
    above alone.row alone.before = above site.row site.before := by
  have hsite : BlankRowBetween [⟨.other, 0, 0⟩, ⟨.comment "/* Notice. */", 2, 6⟩]
      [⟨.comment "/* A. */", 8, 8⟩, ⟨.comment "// B.", 9, 9⟩] site := ⟨by decide, by decide⟩
  have hbelow : BlankRowBetween [⟨.other, 3, 11⟩]
      [⟨.comment "/* A. */", 13, 13⟩, ⟨.comment "// B.", 14, 14⟩] below := ⟨by decide, by decide⟩
  have halone : BlankRowBetween []
      [⟨.comment "/* A. */", 0, 0⟩, ⟨.comment "// B.", 1, 1⟩] alone := ⟨by decide, by decide⟩
  constructor
  · exact doc_below_blank_row (k := 5) hsite hbelow rfl
      (.cons ⟨rfl, rfl, rfl⟩ (.cons ⟨rfl, rfl, rfl⟩ .nil))
  · exact doc_below_blank_row (k := -8) hsite halone rfl
      (.cons ⟨rfl, rfl, rfl⟩ (.cons ⟨rfl, rfl, rfl⟩ .nil))

end Notice

end StructCli.Go.Doc
