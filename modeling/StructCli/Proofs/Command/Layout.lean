import StructCli.Command.Basic
import StructCli.Proofs.Command.Help
import StructCli.Proofs.Go.CommentWords

/-! # The layout of a package comment

Two package comments of the same words give the same help, whatever the command is called, exactly
if they open alike: the marker and the name of the package are looked for in the comment as it
stands, before its white space is collapsed. How the words are laid out behind these does not show.
-/

namespace StructCli

namespace Command

open Text

/-- Both docs or neither open with the marker, and with the name of the package behind it. -/
structure OpensAlike (package doc doc' : Text) : Prop where
  marker : helpMarker <+: doc ↔ helpMarker <+: doc'
  name : package <+: subject doc ↔ package <+: subject doc'

/-- Both docs give the same help, whatever the command is called, and the same commands. -/
structure SameHelp (package doc doc' : Text) : Prop where
  help : ∀ command : Text,
    (helpOfDoc doc package command).outcome = (helpOfDoc doc' package command).outcome
  command : ∀ (types : List TypeDecl) (typeName key : Text),
    (ofType { name := package, doc := doc, types := types } typeName key).outcome =
      (ofType { name := package, doc := doc', types := types } typeName key).outcome

variable {package doc doc' r r' l l' : Text}

theorem words_marker_append (r : Text) :
    words (helpMarker ++ r) = ("Package" : Text) :: words r := by
  have hmarker : helpMarker ++ r = ("Package" : Text) ++ .scalar ' ' :: r := rfl
  rw [hmarker, words_append_cons_blank rfl]
  rfl

theorem words_subject (doc : Text) :
    words doc = (if helpMarker <+: doc then [("Package" : Text)] else []) ++
      words (subject doc) := by
  split
  · next h =>
    obtain ⟨r, rfl⟩ := h
    rw [subject_append, words_marker_append]
    rfl
  · next h => rw [subject, replaceStart_eq_self h, List.nil_append]

/-- A comment without text has no name to replace, so that it is no case of its own. -/
theorem helpText_eq (hn : package ≠ []) (doc command : Text) :
    helpText doc package command = unwords (words (replaceStart package command (subject doc))) := by
  unfold helpText
  split
  · next hs =>
    have hp : ¬ package <+: [] := fun hp => hn (List.prefix_nil.mp hp)
    rw [hs, replaceStart_eq_self hp]
    rfl
  · rfl

theorem ite_word_eq_iff {P Q : Prop} [Decidable P] [Decidable Q] {w : Text} :
    (if P then [w] else []) = (if Q then [w] else []) ↔ (P ↔ Q) := by
  by_cases hQ : Q
  · simp [hQ]
  · simp [hQ]

theorem OpensAlike.words_subject_eq (h : OpensAlike package doc doc')
    (hw : words doc = words doc') : words (subject doc) = words (subject doc') := by
  rw [words_subject doc, words_subject doc', ite_word_eq_iff.mpr h.marker] at hw
  exact List.append_cancel_left hw

theorem words_replaceStart_congr (hn : package ≠ []) (hp : ∀ c ∈ package, c.isBlank = false)
    (hname : package <+: r ↔ package <+: r') (hw : words r = words r') (command : Text) :
    words (replaceStart package command r) = words (replaceStart package command r') := by
  by_cases h : package <+: r
  · obtain ⟨t, rfl⟩ := h
    obtain ⟨t', rfl⟩ := hname.mp (List.prefix_append package t)
    rw [replaceStart_append, replaceStart_append]
    exact words_append_congr hn hp hw command
  · rw [replaceStart_eq_self h, replaceStart_eq_self fun h' => h (hname.mpr h'), hw]

/-- A command of a blank, and one of a word, tell whether the name of the package is replaced. -/
theorem prefix_of_words_replaceStart
    (h : ∀ command, words (replaceStart package command r) =
      words (replaceStart package command r')) (hr : package <+: r) : package <+: r' := by
  by_contra hr'
  obtain ⟨t, rfl⟩ := hr
  have hblank := h " "
  have hword := h "a "
  rw [replaceStart_append, replaceStart_eq_self hr'] at hblank hword
  rw [← hblank] at hword
  have hlong : words ("a " ++ t) = ("a" : Text) :: words t :=
    words_append_cons_blank (c := .scalar ' ') rfl "a" t
  have hshort : words (" " ++ t) = words t := words_of_blank rfl
  rw [hlong, hshort] at hword
  exact List.cons_ne_self _ _ hword

theorem opensAlike_of_words_replaceStart (hw : words doc = words doc')
    (h : ∀ command, words (replaceStart package command (subject doc)) =
      words (replaceStart package command (subject doc'))) : OpensAlike package doc doc' := by
  constructor
  · have hs := h package
    rw [replaceStart_self, replaceStart_self] at hs
    rw [words_subject doc, words_subject doc', hs] at hw
    exact ite_word_eq_iff.mp (List.append_cancel_right hw)
  · exact ⟨prefix_of_words_replaceStart h, prefix_of_words_replaceStart fun c => (h c).symm⟩

theorem helpText_congr_iff (hn : package ≠ []) (hp : ∀ c ∈ package, c.isBlank = false)
    (hw : words doc = words doc') :
    (∀ command, helpText doc package command = helpText doc' package command) ↔
      OpensAlike package doc doc' := by
  simp only [helpText_eq hn, unwords_words_inj]
  constructor
  · exact opensAlike_of_words_replaceStart hw
  · exact fun h => words_replaceStart_congr hn hp h.name (h.words_subject_eq hw)

theorem outcome_helpOfDoc (doc package command : Text) :
    (helpOfDoc doc package command).outcome = .ok (helpText doc package command) := by
  rw [helpOfDoc_eq]

theorem outcome_ofType_congr
    (h : ∀ command, (helpOfDoc doc package command).outcome =
      (helpOfDoc doc' package command).outcome) (types : List TypeDecl) (typeName key : Text) :
    (ofType { name := package, doc := doc, types := types } typeName key).outcome =
      (ofType { name := package, doc := doc', types := types } typeName key).outcome := by
  have hfind : ∀ d : Text, PackageDecl.findType { name := package, doc := d, types := types }
      typeName = types.find? (·.name = typeName) := fun _ => rfl
  simp only [ofType, hfind]
  cases types.find? (·.name = typeName) with
  | none => simp only [Report.outcome_bind, h]
  | some t =>
    dsimp only
    split
    · simp only [Report.outcome_bind, h]
    · simp only [Report.outcome_bind, h]

theorem sameHelp_iff (hn : package ≠ []) (hp : ∀ c ∈ package, c.isBlank = false)
    (hw : words doc = words doc') : SameHelp package doc doc' ↔ OpensAlike package doc doc' := by
  have hcongr : (∀ command, (helpOfDoc doc package command).outcome =
      (helpOfDoc doc' package command).outcome) ↔ OpensAlike package doc doc' := by
    simp only [outcome_helpOfDoc, Except.ok.injEq]
    exact helpText_congr_iff hn hp hw
  constructor
  · exact fun h => hcongr.mp h.help
  · exact fun h => ⟨hcongr.mpr h, outcome_ofType_congr (hcongr.mpr h)⟩

/-! ## Docs that come from comments -/

theorem prefix_subject_iff : package <+: subject doc ↔
    (if helpMarker <+: doc then helpMarker ++ package else package) <+: doc := by
  split
  · next h =>
    obtain ⟨r, rfl⟩ := h
    rw [subject_append, List.prefix_append_right_inj]
  · next h => rw [subject, replaceStart_eq_self h]

theorem opensAlike_line (h : ∀ p : Text, .scalar '\n' ∉ p → (p <+: doc ↔ p <+: l))
    (hp : .scalar '\n' ∉ package) : OpensAlike package doc l := by
  have hmarker : .scalar '\n' ∉ helpMarker := by decide
  have hboth : .scalar '\n' ∉ helpMarker ++ package := by simp [hmarker, hp]
  refine ⟨h _ hmarker, ?_⟩
  simp only [prefix_subject_iff, h _ hmarker]
  split
  · exact h _ hboth
  · exact h _ hp

theorem OpensAlike.congr (h : OpensAlike package doc l) (h' : OpensAlike package doc' l') :
    OpensAlike package doc doc' ↔ OpensAlike package l l' := by
  constructor
  · intro ho
    exact ⟨h.marker.symm.trans (ho.marker.trans h'.marker),
      h.name.symm.trans (ho.name.trans h'.name)⟩
  · intro ho
    exact ⟨h.marker.trans (ho.marker.trans h'.marker.symm),
      h.name.trans (ho.name.trans h'.name.symm)⟩

open Go.Comment

theorem opensAlike_groupText_iff (hp : .scalar '\n' ∉ package) (comments comments' : List Raw) :
    OpensAlike package (groupText (comments.map Raw.text)) (groupText (comments'.map Raw.text)) ↔
      OpensAlike package (Raw.opening comments) (Raw.opening comments') :=
  OpensAlike.congr (opensAlike_line (fun _ h => prefix_groupText_iff h comments) hp)
    (opensAlike_line (fun _ h => prefix_groupText_iff h comments') hp)

/-- Docs of the same words give the same help, and the same commands, exactly if they open alike.
So do groups of comments of the same words. -/
theorem help_of_same_words (package : Text) (hn : package ≠ [])
    (hp : ∀ c ∈ package, c.isBlank = false) :
    (∀ doc doc', words doc = words doc' →
      (SameHelp package doc doc' ↔ OpensAlike package doc doc')) ∧
    ∀ comments comments', comments.flatMap Raw.words = comments'.flatMap Raw.words →
      (SameHelp package (groupText (comments.map Raw.text)) (groupText (comments'.map Raw.text)) ↔
        OpensAlike package (Raw.opening comments) (Raw.opening comments')) := by
  refine ⟨fun doc doc' hw => sameHelp_iff hn hp hw, fun comments comments' hw => ?_⟩
  have hnewline : .scalar '\n' ∉ package := fun hm => Bool.noConfusion (hp _ hm)
  rw [← words_groupText, ← words_groupText] at hw
  rw [sameHelp_iff hn hp hw, opensAlike_groupText_iff hnewline]

namespace Wrapped

/-- A tool directive, and a comment that is wrapped behind the name of the package. -/
def lines : List Raw :=
  [.line "go:generate tool" (by decide), .line " Package my_tool" (by decide),
    .line "   is a tool." (by decide)]

def block : List Raw := [.block "\n\nPackage my_tool is\n\n\ta tool.\n"]

theorem same_help :
    SameHelp "my_tool" "Package my_tool is a tool." "Package my_tool\n\tis a\u2003tool. " ∧
    SameHelp "my_tool" (groupText (lines.map Raw.text)) (groupText (block.map Raw.text)) := by
  have hlaw := help_of_same_words "my_tool" (by decide) (by decide)
  have hwords : words "Package my_tool is a tool." =
      words "Package my_tool\n\tis a\u2003tool. " := by decide +kernel
  constructor
  · exact (hlaw.1 _ _ hwords).mpr ⟨by decide +kernel, by decide +kernel⟩
  · exact (hlaw.2 lines block (by decide +kernel)).mpr ⟨by decide +kernel, by decide +kernel⟩

end Wrapped

/-- A second space behind the marker hides the name of the package. -/
theorem layout_not_always_hidden : ¬ ∀ package command doc doc' : Text, package ≠ [] →
    (∀ c ∈ package, c.isBlank = false) → words doc = words doc' →
    (helpOfDoc doc package command).outcome = (helpOfDoc doc' package command).outcome := by
  intro h
  have hsame := h "simple" "cmd" "Package simple copies." "Package  simple copies."
    (by decide) (by decide) (by decide +kernel)
  exact absurd hsame (by decide +kernel)

end Command

end StructCli
