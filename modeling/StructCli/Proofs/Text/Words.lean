import StructCli.Command.Help
import StructCli.Proofs.Text.Pieces
import StructCli.Proofs.Text.Strip

/-! # Words of a text

A text is cut into words by the white space in it. Collapsing its white space and stripping the
result leaves the words with one space between them.
-/

namespace StructCli.Text

/-- The words of a text, in order. A word ends at white space or with the text. -/
inductive Worded : Text → List Text → Prop where

  | nil : Worded [] []

  | blank {c : CodePoint} {t : Text} {ws : List Text} : c.isBlank = true → Worded t ws →
      Worded (c :: t) ws

  | word {w t : Text} {ws : List Text} : w ≠ [] → (∀ c ∈ w, c.isBlank = false) →
      (∀ c ∈ t.head?, c.isBlank = true) → Worded t ws → Worded (w ++ t) (w :: ws)

def unwords (ws : List Text) : Text := joinWith [.scalar ' '] ws

variable {t w : Text} {ws : List Text} {c : CodePoint}

theorem words_of_blank (h : c.isBlank = true) : words (c :: t) = words t := by
  simp [words, h]

theorem words_append (hn : w ≠ []) (hw : ∀ c ∈ w, c.isBlank = false)
    (ht : ∀ c ∈ t.head?, c.isBlank = true) : words (w ++ t) = w :: words t := by
  induction w with
  | nil => exact absurd rfl hn
  | cons c w ih =>
    have hc : c.isBlank = false := hw c List.mem_cons_self
    cases w with
    | nil =>
      cases t with
      | nil => simp [words, hc]
      | cons d t => simp [words, hc, ht d rfl]
    | cons d w =>
      have hd : d.isBlank = false := hw d (by simp)
      have hr := ih (List.cons_ne_nil d w) fun c' h' => hw c' (List.mem_cons_of_mem c h')
      rw [List.cons_append] at hr
      rw [List.cons_append, List.cons_append, words, if_neg (by simp [hc]), if_neg (by simp [hd]),
        hr, List.modifyHead_cons]

theorem Worded.words_eq (h : Worded t ws) : words t = ws := by
  induction h with
  | nil => rfl
  | blank hc _ ih => rw [words_of_blank hc, ih]
  | word hn hw ht _ ih => rw [words_append hn hw ht, ih]

theorem Worded.cons_of_visible (hc : c.isBlank = false) (h : Worded t ws) :
    ∃ ws', Worded (c :: t) ws' := by
  have hsingle : ∀ d ∈ [c], d.isBlank = false := List.forall_mem_singleton.mpr hc
  cases h with
  | nil => exact ⟨_, .word (List.cons_ne_nil c []) hsingle nofun .nil⟩
  | @blank d t ws hd h =>
    have hhead : ∀ e ∈ (d :: t).head?, e.isBlank = true := fun e he => Option.some.inj he ▸ hd
    exact ⟨_, .word (List.cons_ne_nil c []) hsingle hhead (.blank hd h)⟩
  | @word w t ws _ hw ht h =>
    exact ⟨_, .word (List.cons_ne_nil c w) (List.forall_mem_cons.mpr ⟨hc, hw⟩) ht h⟩

/-- Each text is cut into words. A visible character joins the word that the rest begins with. -/
theorem exists_worded (t : Text) : ∃ ws, Worded t ws := by
  induction t with
  | nil => exact ⟨[], .nil⟩
  | cons c t ih =>
    obtain ⟨ws, h⟩ := ih
    cases hc : c.isBlank with
    | true => exact ⟨ws, .blank hc h⟩
    | false => exact h.cons_of_visible hc

theorem worded_iff : Worded t ws ↔ words t = ws := by
  constructor
  · exact Worded.words_eq
  · rintro rfl
    obtain ⟨ws, h⟩ := exists_worded t
    rwa [h.words_eq]

theorem mem_words (h : w ∈ words t) : w ≠ [] ∧ ∀ c ∈ w, c.isBlank = false := by
  obtain ⟨ws, ht⟩ := exists_worded t
  rw [ht.words_eq] at h
  induction ht with
  | nil => exact absurd h List.not_mem_nil
  | blank _ _ ih => exact ih h
  | word hn hw _ _ ih =>
    rcases List.mem_cons.mp h with rfl | h
    · exact ⟨hn, hw⟩
    · exact ih h

theorem words_append_of_boundary (s : Text) (ht : ∀ c ∈ t.head?, c.isBlank = true) :
    words (s ++ t) = words s ++ words t := by
  obtain ⟨ws, hs⟩ := exists_worded s
  rw [hs.words_eq]
  induction hs with
  | nil => rfl
  | blank hc _ ih => rw [List.cons_append, words_of_blank hc, ih]
  | @word w s ws hn hw hhead _ ih =>
    have hst : ∀ c ∈ (s ++ t).head?, c.isBlank = true := by
      cases s with
      | nil => exact ht
      | cons d s => exact hhead
    rw [List.append_assoc, words_append hn hw hst, ih, List.cons_append]

theorem words_eq_nil (h : Blank t) : words t = [] := by
  induction t with
  | nil => rfl
  | cons c t ih =>
    obtain ⟨hc, ht⟩ := List.forall_mem_cons.mp h
    rw [words_of_blank hc, ih ht]

theorem words_stripEnd (t : Text) : words (stripEnd t) = words t := by
  obtain ⟨b, hb, ht⟩ := exists_stripEnd t
  have h := words_append_of_boundary (stripEnd t) fun c hc => hb c (List.mem_of_mem_head? hc)
  rw [← ht, words_eq_nil hb, List.append_nil] at h
  exact h.symm

theorem exists_solid_append (t : Text) : ∃ x s, t = x ++ s ∧
    (∀ c ∈ x, c.isBlank = false) ∧ ∀ c ∈ s.head?, c.isBlank = true := by
  refine ⟨t.takeWhile (!·.isBlank), t.dropWhile (!·.isBlank), ?_, ?_, ?_⟩
  · rw [List.takeWhile_append_dropWhile]
  · exact fun c hc => by simpa using List.mem_takeWhile_imp hc
  · intro c hc
    have h := List.head?_dropWhile_not (!·.isBlank) t
    rw [Option.mem_def.mp hc] at h
    simpa using h

/-- A beginning without white space may be replaced in two texts of the same words. -/
theorem words_append_congr {p t t' : Text} (hn : p ≠ []) (hp : ∀ c ∈ p, c.isBlank = false)
    (h : words (p ++ t) = words (p ++ t')) (q : Text) : words (q ++ t) = words (q ++ t') := by
  have hfirst : ∀ {x s : Text}, (∀ c ∈ x, c.isBlank = false) →
      (∀ c ∈ s.head?, c.isBlank = true) → words (p ++ (x ++ s)) = (p ++ x) :: words s := by
    intro x s hx hs
    have hpx : ∀ c ∈ p ++ x, c.isBlank = false := List.forall_mem_append.mpr ⟨hp, hx⟩
    rw [← List.append_assoc, words_append (List.append_ne_nil_of_left_ne_nil hn x) hpx hs]
  obtain ⟨x, s, rfl, hx, hs⟩ := exists_solid_append t
  obtain ⟨x', s', rfl, hx', hs'⟩ := exists_solid_append t'
  rw [hfirst hx hs, hfirst hx' hs'] at h
  obtain ⟨hpx, hss⟩ := List.cons.inj h
  obtain rfl := List.append_cancel_left hpx
  rw [← List.append_assoc, ← List.append_assoc, words_append_of_boundary _ hs,
    words_append_of_boundary _ hs', hss]

/-! ## Collapsed white space -/

/-- What collapsing leaves of the white space that a text begins with. -/
def margin (t : Text) : Text := if t.head?.any CodePoint.isBlank then [.scalar ' '] else []

theorem margin_of_blank (h : c.isBlank = true) : margin (c :: t) = [.scalar ' '] := by
  simp [margin, h]

theorem margin_of_visible (h : c.isBlank = false) : margin (c :: t) = [] := by
  simp [margin, h]

theorem blank_margin (t : Text) : Blank (margin t) := by
  unfold margin
  split <;> decide

theorem collapse_of_visible (h : c.isBlank = false) (t : Text) :
    collapse (c :: t) = c :: collapse t := by
  cases t <;> simp [collapse, h]

theorem collapse_append (hw : ∀ c ∈ w, c.isBlank = false) (t : Text) :
    collapse (w ++ t) = w ++ collapse t := by
  induction w with
  | nil => rfl
  | cons c w ih =>
    rw [List.cons_append, collapse_of_visible (hw c List.mem_cons_self),
      ih fun d hd => hw d (List.mem_cons_of_mem c hd), List.cons_append]

theorem collapse_of_blank (h : c.isBlank = true) {x : Text} (hx : collapse t = margin t ++ x) :
    collapse (c :: t) = .scalar ' ' :: x := by
  cases t with
  | nil =>
    obtain rfl : x = [] := hx.symm
    simp [collapse, h]
  | cons d t =>
    cases hd : d.isBlank with
    | true =>
      rw [margin_of_blank hd] at hx
      simpa [collapse, h, hd] using hx
    | false =>
      rw [margin_of_visible hd] at hx
      simpa [collapse, h, hd] using hx

/-- Beside the words, one space may be left at the beginning, and some white space at the end. -/
theorem Worded.collapse_eq (h : Worded t ws) :
    ∃ b, Blank b ∧ collapse t = margin t ++ (unwords ws ++ b) := by
  induction h with
  | nil => exact ⟨[], nofun, rfl⟩
  | blank hc _ ih =>
    obtain ⟨b, hb, he⟩ := ih
    refine ⟨b, hb, ?_⟩
    rw [collapse_of_blank hc he, margin_of_blank hc]
    rfl
  | @word w t ws hn hw ht h ih =>
    obtain ⟨b, hb, he⟩ := ih
    obtain ⟨c, r, rfl⟩ := List.exists_cons_of_ne_nil hn
    rw [List.cons_append, margin_of_visible (hw c List.mem_cons_self), ← List.cons_append,
      collapse_append hw, he]
    cases ws with
    | nil => exact ⟨margin t ++ b, (blank_margin t).append hb, by simp [unwords]⟩
    | cons v ws =>
      refine ⟨b, hb, ?_⟩
      have hm : margin t = [.scalar ' '] := by
        cases t with
        | nil => cases h.words_eq
        | cons d t => exact margin_of_blank (ht d rfl)
      simp [unwords, hm]

/-! ## Words with single spaces -/

theorem unwords_cons_cons (v w : Text) (ws : List Text) :
    unwords (v :: w :: ws) = v ++ [.scalar ' '] ++ unwords (w :: ws) :=
  joinWith_cons_cons _ _ _ _

theorem trimmed_unwords (h : ∀ w ∈ ws, w ≠ [] ∧ ∀ c ∈ w, c.isBlank = false) :
    Trimmed (unwords ws) := by
  induction ws with
  | nil => exact ⟨nofun, nofun⟩
  | cons w ws ih =>
    obtain ⟨hn, hw⟩ := h w List.mem_cons_self
    have htail : ∀ v ∈ ws, v ≠ [] ∧ ∀ c ∈ v, c.isBlank = false :=
      fun v hv => h v (List.mem_cons_of_mem w hv)
    cases ws with
    | nil => simpa [unwords] using trimmed_of_forall hw
    | cons v ws =>
      have hne : unwords (v :: ws) ≠ [] :=
        joinWith_ne_nil (fun u hu => (htail u hu).1) (List.cons_ne_nil v ws)
      rw [unwords_cons_cons]
      exact (trimmed_of_forall hw).append hn (ih htail) hne

theorem eq_space_of_mem_unwords (h : ∀ w ∈ ws, ∀ c ∈ w, c.isBlank = false)
    (hc : c ∈ unwords ws) (hb : c.isBlank = true) : c = .scalar ' ' := by
  induction ws with
  | nil => exact absurd hc List.not_mem_nil
  | cons w ws ih =>
    have hw : c ∉ w := fun hm => by simp [h w List.mem_cons_self c hm] at hb
    cases ws with
    | nil => exact absurd (by simpa [unwords] using hc) hw
    | cons v ws =>
      rw [unwords_cons_cons, List.append_assoc, List.mem_append, List.mem_append] at hc
      rcases hc with hc | hc | hc
      · exact absurd hc hw
      · exact List.mem_singleton.mp hc
      · exact ih (fun v hv => h v (List.mem_cons_of_mem w hv)) hc

/-- Between two spaces in a row an empty word would stand. -/
theorem not_spaces_infix_unwords (h : ∀ w ∈ ws, w ≠ [] ∧ .scalar ' ' ∉ w) :
    ¬ [.scalar ' ', .scalar ' '] <:+: unwords ws := by
  rintro ⟨a, b, he⟩
  have hn : ws ≠ [] := by
    rintro rfl
    simp [unwords] at he
  have hsplit : splitAt (.scalar ' ') (unwords ws) = ws :=
    splitAt_joinWith hn fun w hw => (h w hw).2
  rw [← he, List.append_assoc, List.cons_append, splitAt_append, List.cons_append] at hsplit
  exact (h [] (by rw [← hsplit]; simp [splitAt])).1 rfl

theorem words_unwords (h : ∀ w ∈ ws, w ≠ [] ∧ ∀ c ∈ w, c.isBlank = false) :
    words (unwords ws) = ws := by
  induction ws with
  | nil => rfl
  | cons w ws ih =>
    obtain ⟨⟨hn, hw⟩, hws⟩ := List.forall_mem_cons.mp h
    cases ws with
    | nil =>
      have hsingle := words_append hn hw (t := []) nofun
      simpa [unwords, words] using hsingle
    | cons v ws =>
      rw [unwords_cons_cons, List.append_assoc, words_append hn hw (by simp; decide),
        List.singleton_append, words_of_blank rfl, ih hws]

theorem unwords_words_inj {t t' : Text} :
    unwords (words t) = unwords (words t') ↔ words t = words t' := by
  constructor
  · intro h
    have hw := congrArg words h
    rwa [words_unwords fun w hw => mem_words hw, words_unwords fun w hw => mem_words hw] at hw
  · exact congrArg unwords

theorem strip_collapse (t : Text) : strip (collapse t) = unwords (words t) := by
  obtain ⟨b, hb, he⟩ := (worded_iff.mpr rfl : Worded t (words t)).collapse_eq
  rw [he, ← List.append_assoc]
  exact strip_eq (blank_margin t) (trimmed_unwords fun w hw => mem_words hw) hb

end StructCli.Text
