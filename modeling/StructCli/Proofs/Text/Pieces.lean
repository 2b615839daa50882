import Mathlib.Data.List.TakeWhile
import StructCli.Text.Basic

/-! # Pieces of a text

The pieces of two texts with a separator between them are the pieces of the one followed by the
pieces of the other. A prefix or a run of characters is taken from a text that begins with it.
-/

namespace StructCli.Text

variable {sep : CodePoint}

theorem splitAt_ne_nil (t : Text) : splitAt sep t ≠ [] := by
  induction t with
  | nil => simp [splitAt]
  | cons c r ih =>
    rw [splitAt]
    split
    · simp
    · cases h : splitAt sep r with
      | nil => exact absurd h ih
      | cons p ps => simp

theorem modifyHead_append {α : Type} {f : α → α} {l : List α} (m : List α) (h : l ≠ []) :
    (l ++ m).modifyHead f = l.modifyHead f ++ m := by
  cases l with
  | nil => exact absurd rfl h
  | cons a l => rfl

theorem splitAt_append (a b : Text) :
    splitAt sep (a ++ sep :: b) = splitAt sep a ++ splitAt sep b := by
  induction a with
  | nil => simp [splitAt]
  | cons c r ih =>
    simp only [List.cons_append, splitAt, ih]
    split
    · rfl
    · exact modifyHead_append _ (splitAt_ne_nil r)

theorem splitAt_of_not_mem {t : Text} (h : sep ∉ t) : splitAt sep t = [t] := by
  induction t with
  | nil => rfl
  | cons c r ih =>
    rw [List.mem_cons, not_or] at h
    rw [splitAt, if_neg (Ne.symm h.1), ih h.2]
    rfl

theorem not_mem_of_mem_splitAt {t p : Text} (h : p ∈ splitAt sep t) : sep ∉ p := by
  induction t generalizing p with
  | nil =>
    rw [splitAt, List.mem_singleton] at h
    exact h ▸ List.not_mem_nil
  | cons c r ih =>
    rw [splitAt] at h
    split at h
    · rcases List.mem_cons.mp h with rfl | h
      · exact List.not_mem_nil
      · exact ih h
    · next hc =>
      obtain ⟨q, ps, he⟩ := List.exists_cons_of_ne_nil (splitAt_ne_nil r : splitAt sep r ≠ [])
      rw [he, List.modifyHead_cons] at h
      rcases List.mem_cons.mp h with rfl | h
      · have hq : sep ∉ q := ih (he ▸ List.mem_cons_self)
        simp [Ne.symm hc, hq]
      · exact ih (he ▸ List.mem_cons_of_mem q h)

theorem infix_of_mem_splitAt {t p : Text} (h : p ∈ splitAt sep t) : p <:+: t := by
  -- the first piece is a prefix, so that a character can be put before it
  suffices hs : (∃ q ps, splitAt sep t = q :: ps ∧ q <+: t ∧ ∀ p ∈ ps, p <:+: t) by
    obtain ⟨q, ps, he, hq, hps⟩ := hs
    rw [he] at h
    rcases List.mem_cons.mp h with rfl | h
    · exact hq.isInfix
    · exact hps p h
  clear h
  induction t with
  | nil => exact ⟨[], [], rfl, List.prefix_refl _, by simp⟩
  | cons c r ih =>
    obtain ⟨q, ps, he, hq, hps⟩ := ih
    rw [splitAt, he]
    split
    · refine ⟨[], q :: ps, rfl, List.nil_prefix, fun p hp => ?_⟩
      rcases List.mem_cons.mp hp with rfl | hp
      · exact hq.isInfix.trans (List.suffix_cons c r).isInfix
      · exact (hps p hp).trans (List.suffix_cons c r).isInfix
    · exact ⟨c :: q, ps, rfl, (List.prefix_cons_inj c).mpr hq,
        fun p hp => (hps p hp).trans (List.suffix_cons c r).isInfix⟩

theorem dropPrefix?_eq_some_iff {t p r : Text} : dropPrefix? t p = some r ↔ t = p ++ r := by
  induction p generalizing t with
  | nil => cases t <;> simp [dropPrefix?]
  | cons d p ih =>
    cases t with
    | nil => simp [dropPrefix?]
    | cons c t => by_cases h : c = d <;> simp [dropPrefix?, h, ih]

theorem dropPrefix?_eq_none_iff {t p : Text} : dropPrefix? t p = none ↔ ¬ p <+: t := by
  constructor
  · rintro h ⟨r, hr⟩
    rw [dropPrefix?_eq_some_iff.mpr hr.symm] at h
    cases h
  · intro h
    cases hd : dropPrefix? t p with
    | none => rfl
    | some r => exact absurd ⟨r, (dropPrefix?_eq_some_iff.mp hd).symm⟩ h

def replaceStart (p q t : Text) : Text := if p <+: t then q ++ t.drop p.length else t

theorem replaceStart_append (p q r : Text) : replaceStart p q (p ++ r) = q ++ r := by
  rw [replaceStart, if_pos (List.prefix_append p r), List.drop_left]

theorem replaceStart_eq_self {p t : Text} (h : ¬ p <+: t) (q : Text) : replaceStart p q t = t :=
  if_neg h

theorem replaceStart_self (p t : Text) : replaceStart p p t = t := by
  by_cases h : p <+: t
  · obtain ⟨r, rfl⟩ := h
    exact replaceStart_append p p r
  · exact replaceStart_eq_self h p

theorem prefix_append_cons_iff {p l r : Text} {c : CodePoint} (h : c ∉ p) :
    p <+: l ++ c :: r ↔ p <+: l := by
  constructor
  · intro hp
    rcases Nat.le_total p.length l.length with hle | hle
    · exact List.prefix_of_prefix_length_le hp (List.prefix_append l _) hle
    · obtain ⟨q, rfl⟩ := List.prefix_of_prefix_length_le (List.prefix_append l _) hp hle
      cases q with
      | nil => simp
      | cons d q =>
        have hq := (List.prefix_append_right_inj l).mp hp
        obtain ⟨rfl, -⟩ := List.cons_prefix_cons.mp hq
        exact absurd (List.mem_append_right l List.mem_cons_self) h
  · exact fun hp => hp.trans (List.prefix_append l _)

@[simp] theorem joinWith_nil (sep : Text) : joinWith sep [] = [] := rfl

@[simp] theorem joinWith_singleton (sep p : Text) : joinWith sep [p] = p :=
  List.intercalate_singleton

@[simp] theorem joinWith_cons_cons (sep p q : Text) (ps : List Text) :
    joinWith sep (p :: q :: ps) = p ++ sep ++ joinWith sep (q :: ps) :=
  List.intercalate_cons_cons

theorem joinWith_ne_nil {sep : Text} {ps : List Text} (h : ∀ p ∈ ps, p ≠ []) (hn : ps ≠ []) :
    joinWith sep ps ≠ [] := by
  obtain ⟨p, ps, rfl⟩ := List.exists_cons_of_ne_nil hn
  have hp := h p List.mem_cons_self
  cases ps with
  | nil => simpa using hp
  | cons q ps => simp [hp]

/-- Texts that are joined by a separator are the pieces of what they make. -/
theorem splitAt_joinWith {ps : List Text} (hn : ps ≠ []) (h : ∀ p ∈ ps, sep ∉ p) :
    splitAt sep (joinWith [sep] ps) = ps := by
  induction ps with
  | nil => exact absurd rfl hn
  | cons p ps ih =>
    have hp : splitAt sep p = [p] := splitAt_of_not_mem (h p List.mem_cons_self)
    cases ps with
    | nil => rwa [joinWith_singleton]
    | cons q r =>
      have hr := ih (List.cons_ne_nil q r) fun p' h' => h p' (List.mem_cons_of_mem p h')
      rw [joinWith_cons_cons, List.append_assoc, List.singleton_append, splitAt_append, hp, hr]
      rfl

theorem takeWhile_dropWhile_append {α : Type} {p : α → Bool} {l r : List α}
    (hl : ∀ c ∈ l, p c = true) (hr : ∀ c ∈ r.head?, p c = false) :
    (l ++ r).takeWhile p = l ∧ (l ++ r).dropWhile p = r := by
  rw [List.takeWhile_append_of_pos hl, List.dropWhile_append_of_pos hl]
  cases r with
  | nil => simp
  | cons c r => simp [hr c rfl]

end StructCli.Text
