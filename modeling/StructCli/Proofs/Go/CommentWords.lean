import StructCli.Proofs.Go.CommentText
import StructCli.Proofs.Text.Words

/-! # The words of comments

A group of comments gives its doc the words that stand in the comments, however these are laid out.
Only the first line that is not blank tells what the doc begins with.
-/

namespace StructCli

theorem CodePoint.isBlank_of_isLineBoundary {c : CodePoint} (h : c.isLineBoundary = true) :
    c.isBlank = true := by
  simp only [isLineBoundary, isBlank, Bool.or_eq_true, Bool.and_eq_true, decide_eq_true_eq,
    beq_iff_eq] at h ⊢
  omega

namespace Text

variable {l m p t : Text} {ls : List Text}

theorem unlines_cons_cons (l m : Text) (ls : List Text) :
    unlines (l :: m :: ls) = l ++ .scalar '\n' :: unlines (m :: ls) := by
  simp [unlines]

theorem words_append_cons_blank {c : CodePoint} (hc : c.isBlank = true) (s t : Text) :
    words (s ++ c :: t) = words s ++ words t := by
  have hhead : ∀ d ∈ (c :: t).head?, d.isBlank = true := fun d hd => Option.some.inj hd ▸ hc
  rw [words_append_of_boundary s hhead, words_of_blank hc]

theorem words_unlines (ls : List Text) : words (unlines ls) = ls.flatMap words := by
  induction ls with
  | nil => rfl
  | cons l ls ih =>
    cases ls with
    | nil => simp [unlines]
    | cons m ls => rw [unlines_cons_cons, words_append_cons_blank rfl, ih, ← List.flatMap_cons]

theorem flatMap_words_eq (ls : List Text) :
    ls.flatMap words = words (ls.headD []) ++ ls.tail.flatMap words := by
  cases ls <;> rfl

/-- The first line may go on from any beginning `s`, so that it grows by one character at a time. -/
theorem words_append_boundedLines (s t : Text) : words (s ++ t) =
    words (s ++ (boundedLines t).headD []) ++ (boundedLines t).tail.flatMap words := by
  fun_induction boundedLines t generalizing s with
  | case1 => simp
  | case2 r ih =>
    have hr := (ih []).trans (flatMap_words_eq _).symm
    rw [words_append_cons_blank rfl, words_of_blank rfl]
    simpa using hr
  | case3 c r _ hc ih =>
    have hr := (ih []).trans (flatMap_words_eq _).symm
    rw [words_append_cons_blank (CodePoint.isBlank_of_isLineBoundary hc)]
    simpa using hr
  | case4 c r _ hc he ih =>
    have h := ih (s ++ [c])
    rw [he] at h
    simpa using h
  | case5 c r _ hc m ms he ih =>
    have h := ih (s ++ [c])
    rw [he] at h
    simpa using h

theorem words_boundedLines (t : Text) : (boundedLines t).flatMap words = words t := by
  have h := words_append_boundedLines [] t
  rw [List.nil_append, List.nil_append, ← flatMap_words_eq] at h
  exact h.symm

theorem prefix_unlines_iff (hp : .scalar '\n' ∉ p) :
    p <+: unlines ls ↔ p <+: ls.headD [] := by
  match ls with
  | [] => rfl
  | [l] => simp [unlines]
  | l :: m :: ls =>
    rw [unlines_cons_cons, prefix_append_cons_iff hp]
    rfl

end Text

namespace Go.Comment

open Text

def Raw.words : Raw → List Text
  | line body _ => if IsDirective body then [] else Text.words body
  | block inside => Text.words inside

/-- The first line of the comments that is not blank. -/
def Raw.opening (comments : List Raw) : Text :=
  ((Raw.groupLines comments).find? (· ≠ [])).getD []

theorem flatMap_words_visible (ls : List Text) :
    (ls.filter (· ≠ [])).flatMap Text.words = ls.flatMap Text.words := by
  induction ls with
  | nil => rfl
  | cons l ls ih =>
    by_cases hl : l = []
    · subst hl
      rw [List.filter_cons_of_neg (by simp), ih, List.flatMap_cons]
      rfl
    · rw [List.filter_cons_of_pos (by simpa using hl), List.flatMap_cons, List.flatMap_cons, ih]

theorem Raw.flatMap_words_lines (c : Raw) : c.lines.flatMap Text.words = c.words := by
  cases c with
  | line body plain =>
    rw [Raw.lines, Raw.words]
    split
    · rfl
    · rw [List.flatMap_singleton]
      by_cases h : (" " : Text) <+: body
      · obtain ⟨r, rfl⟩ := h
        rw [Text.replaceStart_append]
        exact (words_of_blank rfl).symm
      · rw [Text.replaceStart_eq_self h]
  | block inside => exact words_boundedLines inside

/-- The doc of a group of comments has the words of the comments. -/
theorem words_groupText (comments : List Raw) :
    Text.words (groupText (comments.map Raw.text)) = comments.flatMap Raw.words := by
  rw [groupText_eq, words_unlines, ← flatMap_words_visible, (tidies_tidy _).visible,
    flatMap_words_visible, Raw.groupLines, List.flatMap_map]
  simp only [words_stripEnd, List.flatMap_assoc, Raw.flatMap_words_lines]

theorem headD_tidy (ls : List Text) : (tidy ls).headD [] = (ls.find? (· ≠ [])).getD [] := by
  have ht := tidies_tidy ls
  rw [← List.head?_filter, ← ht.visible]
  cases hl : tidy ls with
  | nil => rfl
  | cons l out =>
    have hn : l ≠ [] := fun hn => ht.first (by rw [hl, hn]; rfl)
    rw [List.filter_cons_of_pos (by simpa using hn)]
    rfl

theorem prefix_groupText_iff {p : Text} (hp : .scalar '\n' ∉ p) (comments : List Raw) :
    p <+: groupText (comments.map Raw.text) ↔ p <+: Raw.opening comments := by
  rw [groupText_eq, prefix_unlines_iff hp, headD_tidy]
  rfl

end Go.Comment

end StructCli
