import StructCli.Console.Markup

/-! # Literal texts

A text without backslashes, none of whose brackets opens a style tag, is escaped to itself and
shown as it is.
-/

namespace StructCli.Markup

/-- Nothing in the text is an escape or opens a tag. -/
def Literal : Text → Prop
  | [] => True
  | c :: r => c ≠ .scalar '\\' ∧ (c = .scalar '[' → tagLength? r = none) ∧ Literal r

variable {c : CodePoint} {r t : Text}

theorem literal_of_forall (h : ∀ c ∈ t, c ≠ .scalar '\\' ∧ c ≠ .scalar '[') : Literal t := by
  induction t with
  | nil => trivial
  | cons c r ih =>
    obtain ⟨⟨hs, hb⟩, hr⟩ := List.forall_mem_cons.mp h
    exact ⟨hs, fun he => absurd he hb, ih hr⟩

theorem Literal.append_left {p : Text} (hp : ∀ c ∈ p, c ≠ .scalar '\\' ∧ c ≠ .scalar '[')
    (ht : Literal t) : Literal (p ++ t) := by
  induction p with
  | nil => exact ht
  | cons c p ih =>
    obtain ⟨⟨hs, hb⟩, hr⟩ := List.forall_mem_cons.mp hp
    exact ⟨hs, fun he => absurd he hb, ih hr⟩

theorem Literal.ne_of_mem (h : Literal t) : ∀ c ∈ t, c ≠ .scalar '\\' := by
  induction t with
  | nil => exact fun _ hc => absurd hc List.not_mem_nil
  | cons c r ih => exact List.forall_mem_cons.mpr ⟨h.1, ih h.2.2⟩

theorem Literal.slashes_eq (h : Literal (c :: r)) : slashes (c :: r) = 0 := by
  simp [slashes, h.1]

theorem Literal.tagAfter?_eq (h : Literal (c :: r)) : tagAfter? (c :: r) = none := by
  rw [tagAfter?, h.slashes_eq, List.drop_zero]
  split
  · next he =>
    obtain ⟨rfl, rfl⟩ := List.cons.inj he
    exact h.2.1 rfl
  · rfl

theorem escapeTags_of_literal (fuel : Nat) (h : Literal t) : escapeTags fuel t = t := by
  induction fuel generalizing t with
  | zero => rw [escapeTags]
  | succ fuel ih =>
    cases t with
    | nil => rw [escapeTags]; exact nofun
    | cons c r => simp [escapeTags, h.tagAfter?_eq, h.slashes_eq, ih h.2.2]

theorem escape_of_literal (h : Literal t) : escape t = t := by
  have hlast : ∀ r, t.reverse ≠ .scalar '\\' :: r := by
    intro r hr
    refine h.ne_of_mem (.scalar '\\') ?_ rfl
    rw [← List.mem_reverse, hr]
    exact List.mem_cons_self
  simp only [escape, escapeTags_of_literal _ h]
  split
  · rfl
  · next he => exact absurd he (hlast _)
  · rfl

theorem plain_of_forall (h : ∀ c ∈ t, c ≠ .scalar '\\') : plain t = t := by
  induction t with
  | nil => rw [plain]
  | cons c r ih =>
    obtain ⟨hc, hr⟩ := List.forall_mem_cons.mp h
    rw [plain, ih hr]
    rintro r' he -
    exact hc he

theorem shownFrom_of_literal (fuel : Nat) (pending : Text) (h : Literal t) :
    shownFrom fuel pending t = plain (pending.reverse ++ t) := by
  induction fuel generalizing pending t with
  | zero => rw [shownFrom]
  | succ fuel ih =>
    cases t with
    | nil => rw [shownFrom, List.append_nil]; exact nofun
    | cons c r => simp [shownFrom, h.tagAfter?_eq, h.slashes_eq, ih _ h.2.2]

theorem shown_escape_of_literal (h : Literal t) : shown (escape t) = t := by
  rw [escape_of_literal h, shown]
  split
  · rw [shownFrom_of_literal _ _ h]
    exact plain_of_forall h.ne_of_mem
  · rfl

end StructCli.Markup
