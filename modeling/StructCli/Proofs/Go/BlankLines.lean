import Mathlib.Data.List.DropRight
import StructCli.Go.Comment

/-! # Blank lines

Tidying lines changes blank lines only. It leaves one of them where some stood between two other
lines, and none where none stood or at either end.
-/

namespace StructCli.Go.Comment

/-- The lines `gap`, which are blank, stand between the line `a`, which has `n` lines other than
blank ones above it, and the line `b`. -/
def Neighbours (ls : List Text) (n : Nat) (a : Text) (gap : List Text) (b : Text) : Prop :=
  a ≠ [] ∧ b ≠ [] ∧ (∀ l ∈ gap, l = []) ∧
    ∃ above below, ls = above ++ a :: (gap ++ b :: below) ∧
      (above.filter (· ≠ [])).length = n

/-- The lines begin with `gap`, which is blank, and go on with the line `b`, which is not. -/
def Opens (ls gap : List Text) (b : Text) : Prop :=
  b ≠ [] ∧ (∀ l ∈ gap, l = []) ∧ ∃ below, ls = gap ++ b :: below

/-- The lines `out` are the lines `ls` with their blank lines in normal form. -/
structure Tidies (ls out : List Text) : Prop where
  first : out.head? ≠ some []
  last : out.getLast? ≠ some []
  apart : ¬ [[], []] <:+: out
  visible : out.filter (· ≠ []) = ls.filter (· ≠ [])
  gaps : ∀ n a gap b, Neighbours out n a gap b ↔
    ∃ gap', Neighbours ls n a gap' b ∧ gap = if gap' = [] then [] else [[]]

variable {ls gap blanks : List Text} {l a b : Text} {n : Nat} {blank : Bool}

/-! ## Neighbours from the first line on -/

theorem not_opens_nil : ¬ Opens [] gap b := by
  rintro ⟨-, -, below, h⟩
  simp at h

theorem opens_blank : Opens ([] :: ls) gap b ↔ ∃ gap', gap = [] :: gap' ∧ Opens ls gap' b := by
  constructor
  · rintro ⟨hb, hgap, below, h⟩
    cases gap with
    | nil => exact absurd (List.cons.inj h).1.symm hb
    | cons l gap =>
      obtain ⟨rfl, rfl⟩ := List.cons.inj h
      exact ⟨gap, rfl, hb, fun l hl => hgap l (List.mem_cons_of_mem _ hl), below, rfl⟩
  · rintro ⟨gap', rfl, hb, hgap, below, rfl⟩
    exact ⟨hb, List.forall_mem_cons.mpr ⟨rfl, hgap⟩, below, rfl⟩

theorem opens_visible (hl : l ≠ []) : Opens (l :: ls) gap b ↔ gap = [] ∧ b = l := by
  constructor
  · rintro ⟨hb, hgap, below, h⟩
    cases gap with
    | nil => exact ⟨rfl, (List.cons.inj h).1.symm⟩
    | cons g gap => exact absurd ((List.cons.inj h).1.trans (hgap g List.mem_cons_self)) hl
  · rintro ⟨rfl, rfl⟩
    exact ⟨hl, nofun, ls, rfl⟩

theorem not_neighbours_nil : ¬ Neighbours [] n a gap b := by
  rintro ⟨-, -, -, above, below, h, -⟩
  simp at h

theorem neighbours_blank : Neighbours ([] :: ls) n a gap b ↔ Neighbours ls n a gap b := by
  constructor
  · rintro ⟨ha, hb, hgap, above, below, h, hn⟩
    cases above with
    | nil => exact absurd (List.cons.inj h).1.symm ha
    | cons l above =>
      obtain ⟨rfl, rfl⟩ := List.cons.inj h
      exact ⟨ha, hb, hgap, above, below, rfl, by simpa using hn⟩
  · rintro ⟨ha, hb, hgap, above, below, rfl, hn⟩
    exact ⟨ha, hb, hgap, [] :: above, below, rfl, by simpa using hn⟩

theorem neighbours_zero (hl : l ≠ []) :
    Neighbours (l :: ls) 0 a gap b ↔ a = l ∧ Opens ls gap b := by
  constructor
  · rintro ⟨ha, hb, hgap, above, below, h, hn⟩
    cases above with
    | nil =>
      obtain ⟨rfl, rfl⟩ := List.cons.inj h
      exact ⟨rfl, hb, hgap, below, rfl⟩
    | cons k above =>
      obtain ⟨rfl, rfl⟩ := List.cons.inj h
      simp [hl] at hn
  · rintro ⟨rfl, hb, hgap, below, rfl⟩
    exact ⟨hl, hb, hgap, [], below, rfl, rfl⟩

theorem neighbours_succ (hl : l ≠ []) :
    Neighbours (l :: ls) (n + 1) a gap b ↔ Neighbours ls n a gap b := by
  constructor
  · rintro ⟨ha, hb, hgap, above, below, h, hn⟩
    cases above with
    | nil => simp at hn
    | cons k above =>
      obtain ⟨rfl, rfl⟩ := List.cons.inj h
      exact ⟨ha, hb, hgap, above, below, rfl, by simpa [hl] using hn⟩
  · rintro ⟨ha, hb, hgap, above, below, rfl, hn⟩
    exact ⟨ha, hb, hgap, l :: above, below, rfl, by simpa [hl] using hn⟩

/-! ## Runs of blank lines -/

theorem squeeze_blank (blank : Bool) (ls : List Text) :
    squeeze blank ([] :: ls) = if blank then squeeze true ls else [] :: squeeze true ls := by
  rw [squeeze, if_pos rfl]

theorem squeeze_visible (hl : l ≠ []) (blank : Bool) (ls : List Text) :
    squeeze blank (l :: ls) = l :: squeeze false ls := by
  rw [squeeze, if_neg hl]

theorem filter_squeeze (blank : Bool) (ls : List Text) :
    (squeeze blank ls).filter (· ≠ []) = ls.filter (· ≠ []) := by
  induction ls generalizing blank with
  | nil => rfl
  | cons l ls ih =>
    by_cases hl : l = []
    · subst hl
      rw [squeeze_blank]
      cases blank <;> simpa using ih true
    · rw [squeeze_visible hl, List.filter_cons, List.filter_cons, ih]

theorem head?_squeeze (ls : List Text) : (squeeze true ls).head? ≠ some [] := by
  induction ls with
  | nil => nofun
  | cons l ls ih =>
    by_cases hl : l = []
    · subst hl
      rwa [squeeze_blank, if_pos rfl]
    · rw [squeeze_visible hl]
      simpa using hl

theorem apart_squeeze (blank : Bool) (ls : List Text) : ¬ [[], []] <:+: squeeze blank ls := by
  induction ls generalizing blank with
  | nil => simp [squeeze]
  | cons l ls ih =>
    by_cases hl : l = []
    · subst hl
      rw [squeeze_blank]
      cases blank with
      | true => exact ih true
      | false =>
        rw [if_neg (by simp), List.infix_cons_iff, List.cons_prefix_cons]
        rintro (⟨-, r, hr⟩ | h)
        · exact head?_squeeze ls (by rw [← hr]; rfl)
        · exact ih true h
    · rw [squeeze_visible hl, List.infix_cons_iff, List.cons_prefix_cons]
      rintro (⟨h, -⟩ | h)
      · exact hl h.symm
      · exact ih false h

theorem opens_squeeze_true : Opens (squeeze true ls) gap b ↔
    gap = [] ∧ ∃ gap', Opens ls gap' b := by
  induction ls with
  | nil => simp [squeeze, not_opens_nil]
  | cons l ls ih =>
    by_cases hl : l = []
    · subst hl
      simp [squeeze_blank, ih, opens_blank]
    · simp [squeeze_visible hl, opens_visible hl]

theorem opens_squeeze_false : Opens (squeeze false ls) gap b ↔
    ∃ gap', Opens ls gap' b ∧ gap = if gap' = [] then [] else [[]] := by
  cases ls with
  | nil => simp [squeeze, not_opens_nil]
  | cons l ls =>
    by_cases hl : l = []
    · subst hl
      simp only [squeeze_blank, Bool.false_eq_true, if_false, opens_blank, opens_squeeze_true]
      constructor
      · rintro ⟨_, rfl, rfl, gap', h⟩
        exact ⟨[] :: gap', ⟨gap', rfl, h⟩, rfl⟩
      · rintro ⟨_, ⟨gap', rfl, h⟩, rfl⟩
        exact ⟨[], rfl, rfl, gap', h⟩
    · simp [squeeze_visible hl, opens_visible hl, and_comm]

/-- The induction is on the lines; the first line that is not blank is where the gap opens. -/
theorem neighbours_squeeze : Neighbours (squeeze blank ls) n a gap b ↔
    ∃ gap', Neighbours ls n a gap' b ∧ gap = if gap' = [] then [] else [[]] := by
  induction ls generalizing blank n with
  | nil => simp [squeeze, not_neighbours_nil]
  | cons l ls ih =>
    by_cases hl : l = []
    · subst hl
      rw [squeeze_blank]
      cases blank <;> simp [neighbours_blank, ih]
    · rw [squeeze_visible hl]
      cases n with
      | zero => simp [neighbours_zero hl, opens_squeeze_false, and_assoc]
      | succ n => simp [neighbours_succ hl, ih]

/-! ## Blank lines at the end -/

theorem neighbours_append_blanks (h : ∀ l ∈ blanks, l = []) :
    Neighbours (ls ++ blanks) n a gap b ↔ Neighbours ls n a gap b := by
  constructor
  · rintro ⟨ha, hb, hgap, above, below, he, hn⟩
    refine ⟨ha, hb, hgap, above, ?_⟩
    rw [← List.cons_append, ← List.append_assoc] at he
    rcases List.append_eq_append_iff.mp he with ⟨r, -, hr⟩ | ⟨r, hr, hbelow⟩
    · exact absurd (h b (by rw [hr]; simp)) hb
    · cases r with
      | nil => exact absurd (h b (by rw [← List.nil_append blanks, ← hbelow]; simp)) hb
      | cons c r =>
        obtain ⟨rfl, -⟩ := List.cons.inj hbelow
        exact ⟨r, by rw [hr]; simp, hn⟩
  · rintro ⟨ha, hb, hgap, above, below, rfl, hn⟩
    exact ⟨ha, hb, hgap, above, below ++ blanks, by simp, hn⟩

theorem tidy_eq_rdropWhile (ls : List Text) :
    tidy ls = (squeeze true ls).rdropWhile (· = []) := rfl

theorem exists_blanks (ls : List Text) :
    ∃ blanks, (∀ l ∈ blanks, l = []) ∧ squeeze true ls = tidy ls ++ blanks := by
  refine ⟨(squeeze true ls).rtakeWhile (· = []), fun l hl => ?_, ?_⟩
  · simpa using List.mem_rtakeWhile_imp hl
  · rw [tidy_eq_rdropWhile, List.rdropWhile_append_rtakeWhile]

theorem tidies_tidy (ls : List Text) : Tidies ls (tidy ls) := by
  obtain ⟨blanks, hblanks, hs⟩ := exists_blanks ls
  have hpre : tidy ls <+: squeeze true ls := ⟨blanks, hs.symm⟩
  constructor
  · intro h
    obtain ⟨out, hout⟩ := List.head?_eq_some_iff.mp h
    exact head?_squeeze ls (by rw [hs, hout]; rfl)
  · intro h
    have hn : tidy ls ≠ [] := by
      intro hn
      simp [hn] at h
    have hlast := List.rdropWhile_last_not (fun l : Text => decide (l = [])) (squeeze true ls) hn
    rw [List.getLast?_eq_some_getLast hn] at h
    exact hlast (decide_eq_true (Option.some.inj h))
  · exact fun h => apart_squeeze true ls (h.trans hpre.isInfix)
  · have hnil : blanks.filter (· ≠ []) = [] :=
      List.filter_eq_nil_iff.mpr fun l hl => by simp [hblanks l hl]
    rw [← filter_squeeze true ls, hs, List.filter_append, hnil, List.append_nil]
  · intro n a gap b
    rw [← neighbours_append_blanks hblanks, ← hs, neighbours_squeeze]

theorem mem_of_mem_tidy (h : l ∈ tidy ls) (hl : l ≠ []) : l ∈ ls := by
  have hm : l ∈ (tidy ls).filter (· ≠ []) := List.mem_filter.mpr ⟨h, decide_eq_true hl⟩
  rw [(tidies_tidy ls).visible] at hm
  exact List.mem_of_mem_filter hm

/-! ## Tidy lines -/

theorem squeeze_eq (hfirst : blank → ls.head? ≠ some []) (hapart : ¬ [[], []] <:+: ls) :
    squeeze blank ls = ls := by
  induction ls generalizing blank with
  | nil => rfl
  | cons l ls ih =>
    have htail : ¬ [[], []] <:+: ls := fun h => hapart (h.trans (List.suffix_cons _ _).isInfix)
    by_cases hl : l = []
    · subst hl
      cases blank with
      | true => simp at hfirst
      | false =>
        rw [squeeze_blank, if_neg Bool.false_ne_true, ih (fun _ hhead => ?_) htail]
        obtain ⟨r, rfl⟩ := List.head?_eq_some_iff.mp hhead
        exact hapart (List.prefix_append [[], []] r).isInfix
    · rw [squeeze_visible hl, ih (fun h => absurd h Bool.false_ne_true) htail]

theorem tidy_eq_self (hfirst : ls.head? ≠ some []) (hlast : ls.getLast? ≠ some [])
    (hapart : ¬ [[], []] <:+: ls) : tidy ls = ls := by
  rw [tidy_eq_rdropWhile, squeeze_eq (fun _ => hfirst) hapart, List.rdropWhile_eq_self_iff]
  intro hn h
  exact hlast (by rw [List.getLast?_eq_some_getLast hn, of_decide_eq_true h])

theorem tidy_tidy (ls : List Text) : tidy (tidy ls) = tidy ls :=
  tidy_eq_self (tidies_tidy ls).first (tidies_tidy ls).last (tidies_tidy ls).apart

end StructCli.Go.Comment
