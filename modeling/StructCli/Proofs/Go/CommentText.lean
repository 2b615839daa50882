import StructCli.Proofs.Go.BlankLines
import StructCli.Proofs.Text.Pieces
import StructCli.Proofs.Text.Strip

/-! # The text of comments

The text of a group of comments has the lines of the comments, without white space at their ends
and with their blank lines in normal form. Each of its lines is read back from a line comment.
-/

namespace StructCli

namespace Text

theorem boundary_not_mem {t l : Text} (h : l ∈ boundedLines t) :
    ∀ c ∈ l, c.isLineBoundary = false := by
  fun_induction boundedLines t generalizing l with
  | case1 => exact absurd h List.not_mem_nil
  | case2 r ih =>
    rcases List.mem_cons.mp h with rfl | h
    · nofun
    · exact ih h
  | case3 c r _ hc ih =>
    rcases List.mem_cons.mp h with rfl | h
    · nofun
    · exact ih h
  | case4 c r _ hc _ _ =>
    obtain rfl := List.mem_singleton.mp h
    simpa using hc
  | case5 c r _ hc m ms he ih =>
    rcases List.mem_cons.mp h with rfl | h
    · exact List.forall_mem_cons.mpr ⟨by simpa using hc, ih (he ▸ List.mem_cons_self)⟩
    · exact ih (he ▸ List.mem_cons_of_mem m h)

def docLines (t : Text) : List Text := if t = [] then [] else lines t

theorem docLines_unlines {ls : List Text} (hn : ls ≠ [[]])
    (h : ∀ l ∈ ls, .scalar '\n' ∉ l) : docLines (unlines ls) = ls := by
  match ls with
  | [] => rfl
  | [l] =>
    have hl : l ≠ [] := fun hl => hn (by rw [hl])
    rw [docLines, unlines, joinWith_singleton, if_neg hl]
    exact splitAt_of_not_mem (h l List.mem_cons_self)
  | k :: l :: ls =>
    have hne : unlines (k :: l :: ls) ≠ [] := by simp [unlines]
    rw [docLines, if_neg hne]
    exact splitAt_joinWith (List.cons_ne_nil _ _) h

end Text

namespace Go.Comment

/-- A comment as it stands in a source: on one line, or between delimiters. -/
inductive Raw where
  | line (body : Text) (plain : .scalar '\n' ∉ body)
  | block (inside : Text)

def Raw.text : Raw → Text
  | line body _ => "//" ++ body
  | block inside => "/*" ++ inside ++ "*/"

/-- What a line comment for a tool begins with, after the slashes. -/
def IsDirective (body : Text) : Prop :=
  (∃ word c rest, word ≠ [] ∧ (∀ d ∈ word, isToolChar d = true) ∧ isToolChar c = true ∧
    body = word ++ .scalar ':' :: c :: rest) ∨
  ∃ word ∈ ["line ", "extern ", "export "], Text.ofString word <+: body

variable {body : Text}

theorem isToolDirective_iff : isToolDirective body = true ↔ IsDirective body := by
  unfold isToolDirective
  rw [Bool.or_eq_true]
  refine or_congr ?_ ?_
  · constructor
    · intro h
      split at h
      · cases h
      · next c rest hd hn =>
        refine ⟨body.takeWhile isToolChar, c, rest, hn, fun d hd => List.mem_takeWhile_imp hd, h, ?_⟩
        rw [← hd, List.takeWhile_append_dropWhile]
      · cases h
    · rintro ⟨word, c, rest, hn, hword, hc, rfl⟩
      obtain ⟨ht, hd⟩ := Text.takeWhile_dropWhile_append (r := .scalar ':' :: c :: rest) hword
        (fun d hd => by obtain rfl := Option.some.inj hd; rfl)
      rw [ht, hd]
      obtain ⟨d, word, rfl⟩ := List.exists_cons_of_ne_nil hn
      exact hc
  · simp [List.isPrefixOf_iff_prefix]

instance (body : Text) : Decidable (IsDirective body) := decidable_of_iff _ isToolDirective_iff

/-- The lines of a comment: a tool directive has none, and a line comment loses one leading
space. -/
def Raw.lines : Raw → List Text
  | line body _ => if IsDirective body then [] else [Text.replaceStart " " [] body]
  | block inside => Text.boundedLines inside

theorem rawLines_line (body : Text) : rawLines ("//" ++ body) =
    if IsDirective body then [] else [Text.replaceStart " " [] body] := by
  have hbody : Text.dropPrefix? ("//" ++ body) "//" = some body :=
    Text.dropPrefix?_eq_some_iff.mpr rfl
  simp only [rawLines, hbody, isToolDirective_iff]
  split
  · rfl
  · split
    · next r _ => exact congrArg (fun l => [l]) (Text.replaceStart_append " " [] r).symm
    · next hs =>
      rw [Text.replaceStart_eq_self]
      rintro ⟨r, rfl⟩
      exact hs r rfl

theorem rawLines_block (inside : Text) :
    rawLines ("/*" ++ inside ++ "*/") = Text.boundedLines inside := by
  have hbody : Text.dropPrefix? ("/*" ++ inside ++ "*/") "//" = none := rfl
  have hinside : (("/*" ++ inside ++ "*/" : Text).drop 2).dropLast.dropLast = inside := by
    change (inside ++ [CodePoint.scalar '*', .scalar '/']).dropLast.dropLast = inside
    rw [List.dropLast_append_cons]
    exact List.dropLast_concat
  simp only [rawLines, hbody, hinside]

theorem rawLines_text (c : Raw) : rawLines c.text = c.lines := by
  cases c with
  | line body plain => exact rawLines_line body
  | block inside => exact rawLines_block inside

def Raw.groupLines (comments : List Raw) : List Text :=
  (comments.flatMap Raw.lines).map Text.stripEnd

theorem groupText_eq (comments : List Raw) :
    groupText (comments.map Raw.text) = Text.unlines (tidy (Raw.groupLines comments)) := by
  rw [groupText, List.flatMap_map]
  simp only [rawLines_text]
  rfl

theorem Raw.newline_not_mem {c : Raw} {l : Text} (h : l ∈ c.lines) : .scalar '\n' ∉ l := by
  cases c with
  | line body plain =>
    rw [Raw.lines] at h
    split at h
    · exact absurd h List.not_mem_nil
    · obtain rfl := List.mem_singleton.mp h
      unfold Text.replaceStart
      split
      · exact fun hm => plain (List.mem_of_mem_drop hm)
      · exact plain
  | block inside =>
    exact fun hm => Bool.noConfusion (Text.boundary_not_mem h _ hm)

theorem Raw.plain_of_mem_groupLines {comments : List Raw} {l : Text}
    (h : l ∈ groupLines comments) : .scalar '\n' ∉ l ∧ l.stripEnd = l := by
  obtain ⟨k, hk, rfl⟩ := List.mem_map.mp h
  obtain ⟨c, -, hc⟩ := List.mem_flatMap.mp hk
  obtain ⟨b, -, hb⟩ := Text.exists_stripEnd k
  refine ⟨fun hm => c.newline_not_mem hc ?_, Text.stripEnd_of_last (Text.last_stripEnd k)⟩
  rw [hb]
  exact List.mem_append_left b hm

theorem Raw.plain_of_mem_tidy {comments : List Raw} {l : Text}
    (h : l ∈ tidy (groupLines comments)) : .scalar '\n' ∉ l ∧ l.stripEnd = l := by
  by_cases hl : l = []
  · subst hl
    exact ⟨List.not_mem_nil, rfl⟩
  · exact plain_of_mem_groupLines (mem_of_mem_tidy h hl)

/-- The lines of a doc are those of its comments, with their blank lines in normal form. -/
theorem tidies_docLines (comments : List Raw) :
    Tidies (Raw.groupLines comments) (Text.docLines (groupText (comments.map Raw.text))) := by
  have ht := tidies_tidy (Raw.groupLines comments)
  rw [groupText_eq, Text.docLines_unlines]
  · exact ht
  · intro h
    exact ht.first (by rw [h]; rfl)
  · exact fun l hl => (Raw.plain_of_mem_tidy hl).1

/-! ## Docs as comments -/

/-- The comments that a doc is written as, one for each of its lines. -/
def written (doc : Text) : List Text := (Text.lines doc).map fun line => "// " ++ line

theorem not_isDirective_of_space (line : Text) : ¬ IsDirective (.scalar ' ' :: line) := by
  have htool : isToolChar (.scalar ' ') = false := rfl
  rw [← isToolDirective_iff]
  simp [isToolDirective, htool, Text.ofString, List.isPrefixOf]

theorem rawLines_spaced (line : Text) : rawLines ("// " ++ line) = [line] := by
  have h := rawLines_line (.scalar ' ' :: line)
  rw [if_neg (not_isDirective_of_space line)] at h
  exact h.trans (congrArg (fun l => [l]) (Text.replaceStart_append " " [] line))

theorem flatMap_rawLines_written (doc : Text) :
    (written doc).flatMap rawLines = Text.lines doc := by
  rw [written, List.flatMap_map]
  simp [rawLines_spaced]

theorem groupText_written_eq (doc : Text) :
    groupText (written doc) = Text.unlines (tidy ((Text.lines doc).map Text.stripEnd)) := by
  rw [groupText, flatMap_rawLines_written]

/-- An empty doc has one line for the comments, and none of its own. -/
theorem lines_unlines_tidy {ls : List Text} (h : ∀ l ∈ tidy ls, .scalar '\n' ∉ l) :
    Text.lines (Text.unlines (tidy ls)) = tidy ls ∨
      tidy ls = [] ∧ Text.lines (Text.unlines (tidy ls)) = [[]] := by
  by_cases hn : tidy ls = []
  · rw [hn]
    exact .inr ⟨rfl, rfl⟩
  · exact .inl (Text.splitAt_joinWith hn h)

/-- Written as comments, a doc has its own lines and comes back as it is. -/
theorem groupText_written (comments : List Raw) :
    ((written (groupText (comments.map Raw.text))).flatMap rawLines).map Text.stripEnd =
      Text.lines (groupText (comments.map Raw.text)) ∧
    groupText (written (groupText (comments.map Raw.text))) =
      groupText (comments.map Raw.text) := by
  have hplain : ∀ l ∈ tidy (Raw.groupLines comments), .scalar '\n' ∉ l ∧ l.stripEnd = l :=
    fun l hl => Raw.plain_of_mem_tidy hl
  have hlines := lines_unlines_tidy fun l hl => (hplain l hl).1
  rw [groupText_written_eq, flatMap_rawLines_written, groupText_eq]
  rcases hlines with hl | ⟨hn, hl⟩
  · have hstrip : (tidy (Raw.groupLines comments)).map Text.stripEnd =
        tidy (Raw.groupLines comments) :=
      (List.map_congr_left fun l hl => (hplain l hl).2).trans (List.map_id _)
    rw [hl, hstrip, tidy_tidy]
    exact ⟨rfl, rfl⟩
  · rw [hl, hn]
    exact ⟨rfl, rfl⟩

end Go.Comment

end StructCli
