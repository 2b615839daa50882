import Mathlib.Data.List.Basic
import Mathlib.Data.List.TakeWhile
import StructCli.Text.Basic

/-! # White space at the ends of a text

Stripping keeps the part of a text between its first and its last visible character. White space
added around a text does not show in what is stripped.
-/

namespace StructCli.Text

def Blank (t : Text) : Prop := ∀ c ∈ t, c.isBlank = true

/-- No white space stands at either end. -/
def Trimmed (t : Text) : Prop :=
  (∀ c ∈ t.head?, c.isBlank = false) ∧ ∀ c ∈ t.getLast?, c.isBlank = false

instance : DecidablePred Blank := fun t =>
  inferInstanceAs (Decidable (∀ c ∈ t, c.isBlank = true))

instance : DecidablePred Trimmed := fun t =>
  inferInstanceAs (Decidable ((∀ c ∈ t.head?, c.isBlank = false) ∧
    ∀ c ∈ t.getLast?, c.isBlank = false))

variable {a b t : Text}

theorem stripStart_append (h : Blank a) (t : Text) : stripStart (a ++ t) = stripStart t :=
  List.dropWhile_append_of_pos h

theorem stripEnd_append (t : Text) (h : Blank b) : stripEnd (t ++ b) = stripEnd t := by
  have hr : ∀ c ∈ b.reverse, c.isBlank = true := fun c hc => h c (List.mem_reverse.mp hc)
  simp only [stripEnd, List.reverse_append, List.dropWhile_append_of_pos hr]

theorem stripStart_of_head (h : ∀ c ∈ t.head?, c.isBlank = false) : stripStart t = t := by
  cases t with
  | nil => rfl
  | cons c r => simp [stripStart, h c rfl]

theorem stripEnd_of_last (h : ∀ c ∈ t.getLast?, c.isBlank = false) : stripEnd t = t := by
  have hr : stripStart t.reverse = t.reverse :=
    stripStart_of_head (by simpa [List.head?_reverse] using h)
  rw [stripEnd, ← stripStart, hr, List.reverse_reverse]

theorem strip_of_trimmed (h : Trimmed t) : t.strip = t := by
  rw [strip, stripStart_of_head h.1, stripEnd_of_last h.2]

theorem strip_append_left (h : Blank a) (t : Text) : strip (a ++ t) = strip t := by
  rw [strip, stripStart_append h, strip]

theorem exists_stripStart (t : Text) : ∃ a, Blank a ∧ t = a ++ stripStart t :=
  ⟨t.takeWhile CodePoint.isBlank, fun _ hc => List.mem_takeWhile_imp hc,
    List.takeWhile_append_dropWhile.symm⟩

theorem exists_stripEnd (t : Text) : ∃ b, Blank b ∧ t = stripEnd t ++ b := by
  obtain ⟨a, ha, ht⟩ := exists_stripStart t.reverse
  refine ⟨a.reverse, fun c hc => ha c (List.mem_reverse.mp hc), ?_⟩
  have := congrArg List.reverse ht
  rwa [List.reverse_reverse, List.reverse_append] at this

theorem head_stripStart (t : Text) : ∀ c ∈ (stripStart t).head?, c.isBlank = false := by
  intro c hc
  have h := List.head?_dropWhile_not CodePoint.isBlank t
  rw [← stripStart, Option.mem_def.mp hc] at h
  exact h

theorem last_stripEnd (t : Text) : ∀ c ∈ (stripEnd t).getLast?, c.isBlank = false := by
  intro c hc
  apply head_stripStart t.reverse c
  rwa [stripEnd, List.getLast?_reverse] at hc

theorem trimmed_strip (t : Text) : Trimmed t.strip := by
  refine ⟨fun c hc => ?_, last_stripEnd (stripStart t)⟩
  obtain ⟨b, -, hb⟩ := exists_stripEnd (stripStart t)
  apply head_stripStart t c
  rw [hb]
  exact List.mem_head?_append_of_mem_head? hc

theorem exists_strip (t : Text) : ∃ a b, Blank a ∧ Blank b ∧ t = a ++ t.strip ++ b := by
  obtain ⟨a, ha, hat⟩ := exists_stripStart t
  obtain ⟨b, hb, hbt⟩ := exists_stripEnd (stripStart t)
  refine ⟨a, b, ha, hb, ?_⟩
  rw [List.append_assoc, strip, ← hbt, ← hat]

theorem strip_infix (t : Text) : t.strip <:+: t := by
  obtain ⟨a, b, -, -, h⟩ := exists_strip t
  exact ⟨a, b, h.symm⟩

theorem Blank.append (ha : Blank a) (hb : Blank b) : Blank (a ++ b) := by
  intro c hc
  rcases List.mem_append.mp hc with hc | hc
  · exact ha c hc
  · exact hb c hc

theorem strip_of_blank (h : Blank t) : t.strip = [] := by
  have := strip_append_left h []
  rwa [List.append_nil] at this

theorem strip_eq (ha : Blank a) (ht : Trimmed t) (hb : Blank b) : strip (a ++ t ++ b) = t := by
  rw [List.append_assoc, strip_append_left ha]
  cases t with
  | nil => exact strip_of_blank hb
  | cons c r =>
    have hs : stripStart (c :: r ++ b) = c :: r ++ b :=
      stripStart_of_head (fun d hd => ht.1 d hd)
    rw [strip, hs, stripEnd_append _ hb, stripEnd_of_last ht.2]

theorem strip_append_right (t : Text) (h : Blank b) : strip (t ++ b) = strip t := by
  obtain ⟨x, y, hx, hy, ht⟩ := exists_strip t
  calc strip (t ++ b) = strip (x ++ t.strip ++ (y ++ b)) := by
        rw [← List.append_assoc, ← ht]
    _ = strip t := strip_eq hx (trimmed_strip t) (hy.append h)

theorem trimmed_of_forall (h : ∀ c ∈ t, c.isBlank = false) : Trimmed t :=
  ⟨fun c hc => h c (List.mem_of_mem_head? hc), fun c hc => h c (List.mem_of_mem_getLast? hc)⟩

theorem Trimmed.append (ha : Trimmed a) (hn : a ≠ []) (ht : Trimmed t) (hm : t ≠ []) :
    Trimmed (a ++ b ++ t) := by
  constructor
  · rw [List.append_assoc, List.head?_append_of_ne_nil _ hn]
    exact ha.1
  · rw [List.getLast?_append_of_ne_nil _ hm]
    exact ht.2

end StructCli.Text
