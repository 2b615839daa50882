import StructCli.Proofs.Outcome
import StructCli.Proofs.Text.Words

/-! # Help in words

The help of a command is a list of words: those of the package comment without its marker, about
the command where the comment began with the package. The notices say what the comment lacks.
-/

namespace StructCli

namespace Command

open Text

def subject (doc : Text) : Text := replaceStart helpMarker [] doc

def helpText (doc package command : Text) : Text :=
  if subject doc = [] then [] else unwords (words (replaceStart package command (subject doc)))

def helpNotices (doc package : Text) : List Notice :=
  (if helpMarker <+: doc then [] else [.helpMalformed package]) ++
    if subject doc = [] then [.helpMissing package] else []

theorem renamePackage_eq (doc package command : Text) :
    renamePackage doc package command = replaceStart package command doc := by
  unfold renamePackage
  split
  · next r hr => rw [dropPrefix?_eq_some_iff.mp hr, replaceStart_append]
  · next hr => rw [replaceStart_eq_self (dropPrefix?_eq_none_iff.mp hr)]

theorem subject_append (r : Text) : subject (helpMarker ++ r) = r :=
  replaceStart_append helpMarker [] r

theorem helpOfDoc_eq (doc package command : Text) : helpOfDoc doc package command =
    ⟨helpNotices doc package, .ok (helpText doc package command)⟩ := by
  -- what is done with the comment once its marker has been looked for
  have hrest : ∀ r, (if r = [] then do
        Report.note (.helpMissing package)
        return []
      else return (collapse (renamePackage r package command)).strip : Report Text) =
      ⟨if r = [] then [.helpMissing package] else [],
        .ok (if r = [] then [] else unwords (words (replaceStart package command r)))⟩ := by
    intro r
    split
    · rfl
    · rw [strip_collapse, renamePackage_eq]
      rfl
  unfold helpOfDoc
  cases hd : dropPrefix? doc helpMarker with
  | some r =>
    obtain rfl := dropPrefix?_eq_some_iff.mp hd
    rw [helpNotices, helpText, subject_append, if_pos (List.prefix_append helpMarker r)]
    exact hrest r
  | none =>
    have hn := dropPrefix?_eq_none_iff.mp hd
    have hs : subject doc = doc := replaceStart_eq_self hn []
    rw [helpNotices, helpText, hs, if_neg hn]
    simp only [pure_bind]
    rw [hrest, Report.bind_of_ok (Report.outcome_note _)]
    rfl

theorem exists_helpText (doc package command : Text) : ∃ ws, helpText doc package command =
    unwords ws ∧ ∀ w ∈ ws, w ≠ [] ∧ ∀ c ∈ w, c.isBlank = false := by
  unfold helpText
  split
  · exact ⟨[], rfl, nofun⟩
  · exact ⟨_, rfl, fun w hw => mem_words hw⟩

/-- The help is made of words with one space between them, and the notices tell exactly what the
package comment lacks. -/
theorem helpOfDoc_joins_words (doc package command : Text) :
    helpOfDoc doc package command =
      ⟨helpNotices doc package, .ok (helpText doc package command)⟩ ∧
    Trimmed (helpText doc package command) ∧
    (∀ c ∈ helpText doc package command, c.isBlank = true → c = .scalar ' ') ∧
    ¬ [.scalar ' ', .scalar ' '] <:+: helpText doc package command := by
  refine ⟨helpOfDoc_eq doc package command, ?_⟩
  obtain ⟨ws, he, hsolid⟩ := exists_helpText doc package command
  rw [he]
  refine ⟨trimmed_unwords hsolid, ?_, not_spaces_infix_unwords fun w hw => ?_⟩
  · intro c hc hb
    exact eq_space_of_mem_unwords (fun w hw => (hsolid w hw).2) hc hb
  · obtain ⟨hn, hw⟩ := hsolid w hw
    exact ⟨hn, fun hs => Bool.noConfusion (hw _ hs)⟩

/-- Only the name that the comment begins with is replaced. -/
example : (helpOfDoc "Package aa aaa\n  and aa" "aa" "b c").outcome = .ok "b c aaa and aa" := by
  decide

end Command

end StructCli
