import Mathlib.Data.List.Basic
import StructCli.Command.Name
import StructCli.Proofs.Text.Casing
import StructCli.Proofs.Text.Pieces

/-! # Words of a name

The words of a name hold its letters and numerals, each once and in order. Whether a word ends
between two of these is told by what stands between them, or else by the two and the character
behind them. There is one such list of words, and the name of the command is made of it.
-/

namespace StructCli

namespace Command

/-- The name begins with `gap`, in which no letter or numeral is, and goes on with one, `y`. -/
def Opens (p gap : Text) (y : CodePoint) (after : Text) : Prop :=
  p = gap ++ y :: after ∧ y.isAlphanumeric = true ∧ ∀ c ∈ gap, c.isAlphanumeric = false

/-- The letters or numerals `x` and `y` of the name are next to each other, but for `gap`. -/
def InARow (p before : Text) (x : CodePoint) (gap : Text) (y : CodePoint) (after : Text) : Prop :=
  x.isAlphanumeric = true ∧ ∃ r, p = before ++ x :: r ∧ Opens r gap y after

/-- Of the adjacent characters `x` and `y` one is a digit and the other is not, or `y` is a capital
behind a small letter or the last capital of a run before a small letter. -/
def Boundary (x y : CodePoint) (next : Option CodePoint) : Prop :=
  ¬ (x.isDigit = true ↔ y.isDigit = true) ∨ y.isUpper = true ∧
    (x.isLower = true ∨ x.isUpper = true ∧ ∃ z ∈ next, z.isLower = true)

/-- The first of the words hold just the letters and numerals of `before`. -/
def Cuts (ws : List Text) (before : Text) : Prop :=
  ∃ us vs, ws = us ++ vs ∧ us.flatten = before.filter CodePoint.isAlphanumeric

/-- A word ends between two letters or numerals in a row exactly if other characters or a boundary
stand between them. -/
def CutsAtBoundaries (p : Text) (ws : List Text) : Prop :=
  ∀ before x gap y after, InARow p before x gap y after →
    (Cuts ws (before ++ [x]) ↔ gap ≠ [] ∨ Boundary x y after.head?)

/-- The words `ws` are those of the name `p`. -/
structure Splits (p : Text) (ws : List Text) : Prop where
  nonempty : ∀ w ∈ ws, w ≠ []
  lossless : ws.flatten = p.filter CodePoint.isAlphanumeric
  local_cuts : CutsAtBoundaries p ws

variable {c d x y : CodePoint} {p t u w gap before after : Text} {ws : List Text}

theorem startsWord_iff {next : Option CodePoint} :
    startsWord x y next = true ↔ Boundary x y next := by
  have hdigit : (y.isDigit != x.isDigit) = true ↔ ¬ (x.isDigit = true ↔ y.isDigit = true) := by
    rw [bne_iff_ne, ne_eq, Bool.eq_iff_iff]
    exact not_congr iff_comm
  simp only [startsWord, Boundary, Bool.or_eq_true, Bool.and_eq_true, hdigit, Option.any_eq_true,
    Option.mem_def]

/-! ## Letters and numerals in a row -/

theorem opens_of_filter_ne_nil (h : p.filter CodePoint.isAlphanumeric ≠ []) :
    ∃ gap y after, Opens p gap y after := by
  obtain ⟨y, r, hr⟩ := List.exists_cons_of_ne_nil h
  obtain ⟨gap, after, hp, hgap, hy, -⟩ := List.filter_eq_cons_iff.mp hr
  exact ⟨gap, y, after, hp, hy, fun c hc => by simpa using hgap c hc⟩

theorem opens_letter (hd : d.isAlphanumeric = true) :
    Opens (d :: t) gap y after ↔ gap = [] ∧ y = d ∧ after = t := by
  constructor
  · rintro ⟨he, -, hgap⟩
    cases gap with
    | nil =>
      obtain ⟨rfl, rfl⟩ := List.cons.inj he
      exact ⟨rfl, rfl, rfl⟩
    | cons g gap =>
      obtain ⟨rfl, -⟩ := List.cons.inj he
      simp [hd] at hgap
  · rintro ⟨rfl, rfl, rfl⟩
    exact ⟨rfl, hd, nofun⟩

theorem inARow_cons : InARow (c :: p) before x gap y after ↔
    before = [] ∧ x = c ∧ c.isAlphanumeric = true ∧ Opens p gap y after ∨
      ∃ b, before = c :: b ∧ InARow p b x gap y after := by
  constructor
  · rintro ⟨hx, r, he, hr⟩
    cases before with
    | nil =>
      obtain ⟨rfl, rfl⟩ := List.cons.inj he
      exact .inl ⟨rfl, rfl, hx, hr⟩
    | cons e b =>
      obtain ⟨rfl, rfl⟩ := List.cons.inj he
      exact .inr ⟨b, rfl, hx, r, rfl, hr⟩
  · rintro (⟨rfl, rfl, hc, hr⟩ | ⟨b, rfl, hx, r, rfl, hr⟩)
    · exact ⟨hc, p, rfl, hr⟩
    · exact ⟨hx, r, rfl, hr⟩

/-! ## Cuts -/

theorem cuts_separator (hc : c.isAlphanumeric = false) : Cuts ws (c :: u) ↔ Cuts ws u := by
  simp [Cuts, hc]

theorem cuts_cons : Cuts (w :: ws) u ↔ u.filter CodePoint.isAlphanumeric = [] ∨
    ∃ us vs, ws = us ++ vs ∧ w ++ us.flatten = u.filter CodePoint.isAlphanumeric := by
  constructor
  · rintro ⟨us, vs, he, hu⟩
    cases us with
    | nil => exact .inl hu.symm
    | cons v us =>
      obtain ⟨rfl, rfl⟩ := List.cons.inj he
      exact .inr ⟨us, vs, rfl, hu⟩
  · rintro (hu | ⟨us, vs, rfl, hu⟩)
    · exact ⟨[], w :: ws, rfl, hu.symm⟩
    · exact ⟨w :: us, vs, rfl, hu⟩

theorem cuts_empty_word : Cuts ([] :: ws) u ↔ Cuts ws u := by
  rw [cuts_cons]
  constructor
  · rintro (hu | h)
    · exact ⟨[], ws, rfl, hu.symm⟩
    · exact h
  · exact .inr

theorem cuts_first (hc : c.isAlphanumeric = true) (ws : List Text) :
    Cuts ((c :: w) :: ws) [c] ↔ w = [] := by
  rw [cuts_cons]
  constructor
  · rintro (hf | ⟨us, vs, -, hf⟩)
    · simp [hc] at hf
    · have hw : w ++ us.flatten = [] := by simpa [hc] using hf
      exact (List.append_eq_nil_iff.mp hw).1
  · rintro rfl
    exact .inr ⟨[], ws, rfl, by simp [hc]⟩

theorem cuts_letter (hc : c.isAlphanumeric = true)
    (hu : u.filter CodePoint.isAlphanumeric ≠ []) :
    Cuts ((c :: w) :: ws) (c :: u) ↔ Cuts (w :: ws) u := by
  simp only [cuts_cons, List.filter_cons_of_pos hc, hu, false_or, List.cons_append,
    List.cons.injEq, true_and, reduceCtorEq]

theorem cutsAtBoundaries_separator (hc : c.isAlphanumeric = false) :
    CutsAtBoundaries (c :: p) ws ↔ CutsAtBoundaries p ws := by
  constructor
  · intro h before x gap y after hrow
    rw [← h (c :: before) x gap y after (inARow_cons.mpr (.inr ⟨before, rfl, hrow⟩)),
      List.cons_append, cuts_separator hc]
  · intro h before x gap y after hrow
    rcases inARow_cons.mp hrow with ⟨-, -, ht, -⟩ | ⟨b, rfl, hr⟩
    · exact absurd ht (by simp [hc])
    · rw [← h b x gap y after hr, List.cons_append, cuts_separator hc]

theorem cutsAtBoundaries_empty_word : CutsAtBoundaries p ([] :: ws) ↔ CutsAtBoundaries p ws := by
  simp only [CutsAtBoundaries, cuts_empty_word]

/-- The first letter is a word of its own, if a gap or a boundary follows. The other cuts are
those of what is left. -/
theorem cutsAtBoundaries_letter (hc : c.isAlphanumeric = true) :
    CutsAtBoundaries (c :: p) ((c :: w) :: ws) ↔
      (∀ gap y after, Opens p gap y after → (w = [] ↔ gap ≠ [] ∨ Boundary c y after.head?)) ∧
        CutsAtBoundaries p (w :: ws) := by
  have hcut : ∀ {b x gap y after}, InARow p b x gap y after →
      (Cuts ((c :: w) :: ws) (c :: b ++ [x]) ↔ Cuts (w :: ws) (b ++ [x])) :=
    fun hrow => cuts_letter hc (by simp [List.filter_append, hrow.1])
  constructor
  · intro h
    constructor
    · intro gap y after ho
      rw [← cuts_first hc ws]
      exact h [] c gap y after (inARow_cons.mpr (.inl ⟨rfl, rfl, hc, ho⟩))
    · intro before x gap y after hrow
      rw [← hcut hrow]
      exact h (c :: before) x gap y after (inARow_cons.mpr (.inr ⟨before, rfl, hrow⟩))
  · rintro ⟨hfirst, hrest⟩ before x gap y after hrow
    rcases inARow_cons.mp hrow with ⟨rfl, rfl, -, ho⟩ | ⟨b, rfl, hr⟩
    · rw [List.nil_append, cuts_first hc ws]
      exact hfirst gap y after ho
    · rw [hcut hr]
      exact hrest b x gap y after hr

/-! ## One list of words -/

theorem splits_nil : Splits [] ws ↔ ws = [] := by
  constructor
  · intro h
    cases ws with
    | nil => rfl
    | cons w ws =>
      have hw : w ++ ws.flatten = [] := h.lossless
      exact absurd (List.append_eq_nil_iff.mp hw).1 (h.nonempty w List.mem_cons_self)
  · rintro rfl
    refine ⟨nofun, rfl, ?_⟩
    rintro before x gap y after ⟨-, r, he, -⟩
    simp at he

theorem splits_separator (hc : c.isAlphanumeric = false) : Splits (c :: p) ws ↔ Splits p ws := by
  constructor
  · rintro ⟨hn, hf, hcut⟩
    exact ⟨hn, by simpa [hc] using hf, (cutsAtBoundaries_separator hc).mp hcut⟩
  · rintro ⟨hn, hf, hcut⟩
    exact ⟨hn, by simpa [hc] using hf, (cutsAtBoundaries_separator hc).mpr hcut⟩

theorem Splits.exists_cons (h : Splits (c :: p) ws) (hc : c.isAlphanumeric = true) :
    ∃ w ws', ws = (c :: w) :: ws' ∧ (w :: ws').flatten = p.filter CodePoint.isAlphanumeric := by
  have hf : ws.flatten = c :: p.filter CodePoint.isAlphanumeric := by simpa [hc] using h.lossless
  match ws with
  | [] => cases hf
  | [] :: ws' => exact absurd rfl (h.nonempty [] List.mem_cons_self)
  | (d :: w) :: ws' =>
    obtain ⟨rfl, hr⟩ := List.cons.inj hf
    exact ⟨w, ws', rfl, hr⟩

theorem splits_end (hc : c.isAlphanumeric = true)
    (hb : ∀ gap y after, Opens p gap y after → gap ≠ [] ∨ Boundary c y after.head?) :
    Splits (c :: p) ws ↔ ∃ ws', ws = [c] :: ws' ∧ Splits p ws' := by
  constructor
  · intro h
    obtain ⟨w, ws', rfl, hf⟩ := h.exists_cons hc
    obtain ⟨hfirst, hrest⟩ := (cutsAtBoundaries_letter hc).mp h.local_cuts
    obtain rfl : w = [] := by
      by_cases hp : p.filter CodePoint.isAlphanumeric = []
      · rw [hp] at hf
        exact (List.append_eq_nil_iff.mp hf).1
      · obtain ⟨gap, y, after, ho⟩ := opens_of_filter_ne_nil hp
        exact (hfirst gap y after ho).mpr (hb gap y after ho)
    exact ⟨ws', rfl, fun v hv => h.nonempty v (List.mem_cons_of_mem _ hv), hf,
      cutsAtBoundaries_empty_word.mp hrest⟩
  · rintro ⟨ws', rfl, hn, hf, hcut⟩
    refine ⟨List.forall_mem_cons.mpr ⟨List.cons_ne_nil c [], hn⟩, by simp [hc, hf], ?_⟩
    refine (cutsAtBoundaries_letter hc).mpr ⟨fun gap y after ho => ?_, ?_⟩
    · exact iff_of_true rfl (hb gap y after ho)
    · exact cutsAtBoundaries_empty_word.mpr hcut

theorem splits_join (hc : c.isAlphanumeric = true) (hd : d.isAlphanumeric = true)
    (hb : ¬ Boundary c d t.head?) : Splits (c :: d :: t) ws ↔
      ∃ w ws', ws = (c :: w) :: ws' ∧ Splits (d :: t) (w :: ws') := by
  have hopen : ∀ w : Text, (∀ gap y after, Opens (d :: t) gap y after →
      (w = [] ↔ gap ≠ [] ∨ Boundary c y after.head?)) ↔ w ≠ [] := by
    intro w
    constructor
    · intro h hw
      simpa [hb] using (h [] d t ((opens_letter hd).mpr ⟨rfl, rfl, rfl⟩)).mp hw
    · intro hw gap y after ho
      obtain ⟨rfl, rfl, rfl⟩ := (opens_letter hd).mp ho
      simp [hw, hb]
  constructor
  · intro h
    obtain ⟨w, ws', rfl, hf⟩ := h.exists_cons hc
    obtain ⟨hfirst, hrest⟩ := (cutsAtBoundaries_letter hc).mp h.local_cuts
    have hn : ∀ v ∈ w :: ws', v ≠ [] := List.forall_mem_cons.mpr
      ⟨(hopen w).mp hfirst, fun v hv => h.nonempty v (List.mem_cons_of_mem _ hv)⟩
    exact ⟨w, ws', rfl, hn, hf, hrest⟩
  · rintro ⟨w, ws', rfl, hn, hf, hcut⟩
    obtain ⟨hw, hws⟩ := List.forall_mem_cons.mp hn
    refine ⟨List.forall_mem_cons.mpr ⟨List.cons_ne_nil c w, hws⟩, ?_, ?_⟩
    · rw [List.filter_cons_of_pos hc, ← hf]
      rfl
    · exact (cutsAtBoundaries_letter hc).mpr ⟨(hopen w).mpr hw, hcut⟩

/-! ## The words from the first character on -/

theorem nameWords_of_separator (hc : c.isAlphanumeric = false) :
    nameWords (c :: t) = nameWords t := by
  simp [nameWords, hc]

theorem nameWords_of_end (hc : c.isAlphanumeric = true)
    (hb : ∀ gap y after, Opens t gap y after → gap ≠ [] ∨ Boundary c y after.head?) :
    nameWords (c :: t) = [c] :: nameWords t := by
  cases t with
  | nil => simp [nameWords, hc]
  | cons d s =>
    have hd : ¬ (d.isAlphanumeric && !startsWord c d s.head?) = true := by
      rw [Bool.and_eq_true, Bool.not_eq_true', ← Bool.not_eq_true, startsWord_iff]
      rintro ⟨hd, hs⟩
      simpa [hs] using hb [] d s ((opens_letter hd).mpr ⟨rfl, rfl, rfl⟩)
    rw [nameWords, if_pos hc, if_neg hd]

theorem nameWords_of_join (hc : c.isAlphanumeric = true) (hd : d.isAlphanumeric = true)
    (hb : ¬ Boundary c d t.head?) :
    nameWords (c :: d :: t) = (nameWords (d :: t)).modifyHead (c :: ·) := by
  have hj : (d.isAlphanumeric && !startsWord c d t.head?) = true := by
    rw [Bool.and_eq_true, Bool.not_eq_true', ← Bool.not_eq_true, startsWord_iff]
    exact ⟨hd, hb⟩
  rw [nameWords, if_pos hc, if_pos hj]

theorem nameWords_cases (c : CodePoint) (t : Text) : c.isAlphanumeric = false ∨
    c.isAlphanumeric = true ∧
      (∀ gap y after, Opens t gap y after → gap ≠ [] ∨ Boundary c y after.head?) ∨
    c.isAlphanumeric = true ∧
      ∃ d s, t = d :: s ∧ d.isAlphanumeric = true ∧ ¬ Boundary c d s.head? := by
  cases hc : c.isAlphanumeric with
  | false => exact .inl rfl
  | true =>
    by_cases hj : ∃ d s, t = d :: s ∧ d.isAlphanumeric = true ∧ ¬ Boundary c d s.head?
    · exact .inr (.inr ⟨rfl, hj⟩)
    · refine .inr (.inl ⟨rfl, ?_⟩)
      rintro gap y after ⟨rfl, hy, -⟩
      cases gap with
      | nil => exact .inr (by_contra fun hb => hj ⟨y, after, rfl, hy, hb⟩)
      | cons g gap => exact .inl (List.cons_ne_nil g gap)

theorem splits_iff : Splits p ws ↔ nameWords p = ws := by
  induction p generalizing ws with
  | nil => rw [splits_nil, eq_comm, nameWords]
  | cons c t ih =>
    rcases nameWords_cases c t with hc | ⟨hc, hb⟩ | ⟨hc, d, s, rfl, hd, hb⟩
    · rw [splits_separator hc, nameWords_of_separator hc, ih]
    · rw [splits_end hc hb, nameWords_of_end hc hb]
      simp [ih, eq_comm]
    · obtain ⟨w, ws', hw, -⟩ := (ih.mpr rfl).exists_cons hd
      rw [splits_join hc hd hb, nameWords_of_join hc hd hb]
      simp only [ih, hw, List.modifyHead_cons, List.cons.injEq]
      constructor
      · rintro ⟨v, vs, rfl, rfl, rfl⟩
        rfl
      · rintro rfl
        exact ⟨d :: w, ws', rfl, rfl, rfl⟩

theorem splits_nameWords (p : Text) : Splits p (nameWords p) := splits_iff.mpr rfl

theorem exists_nameWords_cons (hd : d.isAlphanumeric = true) (t : Text) :
    ∃ w ws, nameWords (d :: t) = (d :: w) :: ws := by
  obtain ⟨w, ws, h, -⟩ := (splits_nameWords (d :: t)).exists_cons hd
  exact ⟨w, ws, h⟩

/-! ## The name of the command -/

theorem mem_nameWords (h : w ∈ nameWords p) :
    w ≠ [] ∧ ∀ c ∈ w, c ∈ p ∧ c.isAlphanumeric = true := by
  refine ⟨(splits_nameWords p).nonempty w h, fun c hc => ?_⟩
  have hf : c ∈ (nameWords p).flatten := List.mem_flatten.mpr ⟨w, h, hc⟩
  rw [(splits_nameWords p).lossless] at hf
  exact List.mem_filter.mp hf

theorem nameWords_eq_nil_iff : nameWords p = [] ↔ ∀ c ∈ p, c.isAlphanumeric = false := by
  have hf := (splits_nameWords p).lossless
  constructor
  · intro h
    rw [h] at hf
    exact fun c hc => Bool.not_eq_true _ ▸ List.filter_eq_nil_iff.mp hf.symm c hc
  · intro h
    rw [List.filter_eq_nil_iff.mpr fun c hc => by simp [h c hc], List.flatten_eq_nil_iff] at hf
    exact List.eq_nil_iff_forall_not_mem.mpr fun w hw => (mem_nameWords hw).1 (hf w hw)

theorem nameOfPackage_eq_nil_iff :
    nameOfPackage p = [] ↔ ∀ c ∈ p, c.isAlphanumeric = false := by
  rw [← nameWords_eq_nil_iff]
  constructor
  · intro h
    by_contra hn
    refine Text.joinWith_ne_nil (fun w hw => ?_) (fun he => hn (List.map_eq_nil_iff.mp he)) h
    obtain ⟨v, hv, rfl⟩ := List.mem_map.mp hw
    exact Text.lower_ne_nil (mem_nameWords hv).1
  · intro h
    rw [nameOfPackage, h]
    rfl

/-- The words of a name are told by its letters and numerals and the boundaries between them. The
command is called after these words, and has no name only if there are none. -/
theorem nameOfPackage_of_words (p : Text) :
    (∀ ws, nameWords p = ws ↔ Splits p ws) ∧
    nameOfPackage p = Text.joinWith "-" ((nameWords p).map Text.lower) ∧
    (nameOfPackage p = [] ↔ ∀ c ∈ p, c.isAlphanumeric = false) := by
  exact ⟨fun ws => splits_iff.symm, rfl, nameOfPackage_eq_nil_iff⟩

/-- A run of capitals, a digit between letters, and a separator behind a capital. -/
example : nameWords "-myHTTPServer2go_X" = ["my", "HTTP", "Server", "2", "go", "X"] := by decide

end Command

end StructCli
