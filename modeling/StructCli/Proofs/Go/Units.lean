import StructCli.Proofs.Go.Literal
import StructCli.Proofs.Text.CodePoint

/-! # The units of a literal

The body of an interpreted literal is cut into units, each a plain character or a backslash with
its escape. No unit begins another one, so that a body is cut in one way at most. The value of a
literal exists exactly if its body is cut into units, and has one character for each of them.
-/

namespace StructCli.Go.Literal

/-- A unit of a body, and the character that it stands for. -/
inductive BodyUnit : Text → CodePoint → Prop where

  | plain {c : CodePoint} : Plain c → BodyUnit [c] c

  | escape {e : Text} {c : CodePoint} : Escape e c.value → BodyUnit (.scalar '\\' :: e) c

def Units (us : List (Text × CodePoint)) : Prop := ∀ u ∈ us, BodyUnit u.1 u.2

def bodyOf (us : List (Text × CodePoint)) : Text := us.flatMap Prod.fst

def valueOf (us : List (Text × CodePoint)) : Text := us.map Prod.snd

variable {literal body t s r r' w w' : Text} {c c' : CodePoint} {us vs : List (Text × CodePoint)}
  {u : Text × CodePoint}

@[simp] theorem units_nil : Units [] := fun _ h => absurd h List.not_mem_nil

@[simp] theorem units_cons : Units (u :: us) ↔ BodyUnit u.1 u.2 ∧ Units us := List.forall_mem_cons

theorem BodyUnit.ne_nil (h : BodyUnit w c) : w ≠ [] := by
  cases h <;> simp

theorem Escape.eq_of_append {e e' : Text} {n n' : Nat} (h : Escape e n) (h' : Escape e' n')
    (heq : e ++ r = e' ++ r') : e = e' ∧ n = n' ∧ r = r' := by
  have hread := escape?_complete h r
  rw [heq, escape?_complete h' r'] at hread
  obtain ⟨hn, hl⟩ := Prod.mk.inj (Option.some.inj hread)
  obtain ⟨he, hr⟩ := List.append_inj heq hl.symm
  exact ⟨he, hn.symm, hr⟩

/-- No unit begins another one. -/
theorem BodyUnit.eq_of_append (h : BodyUnit w c) (h' : BodyUnit w' c') (heq : w ++ r = w' ++ r') :
    w = w' ∧ c = c' ∧ r = r' := by
  cases h with
  | plain hp =>
    obtain ⟨hb, -, -⟩ := hp
    cases h' with
    | plain =>
      obtain ⟨rfl, hr⟩ := List.cons.inj heq
      exact ⟨rfl, rfl, hr⟩
    | escape => exact absurd (List.cons.inj heq).1 hb
  | escape he =>
    cases h' with
    | plain hp =>
      obtain ⟨hb, -, -⟩ := hp
      exact absurd (List.cons.inj heq).1.symm hb
    | escape he' =>
      obtain ⟨rfl, hv, hr⟩ := he.eq_of_append he' (List.cons.inj heq).2
      exact ⟨rfl, CodePoint.eq_of_value_eq hv, hr⟩

theorem Units.eq_of_bodyOf (hu : Units us) (hv : Units vs) (h : bodyOf us = bodyOf vs) :
    us = vs := by
  induction us generalizing vs with
  | nil =>
    cases vs with
    | nil => rfl
    | cons v vs => exact absurd (List.append_eq_nil_iff.mp h.symm).1 (units_cons.mp hv).1.ne_nil
  | cons u us ih =>
    cases vs with
    | nil => exact absurd (List.append_eq_nil_iff.mp h).1 (units_cons.mp hu).1.ne_nil
    | cons v vs =>
      obtain ⟨hu, hus⟩ := units_cons.mp hu
      obtain ⟨hv, hvs⟩ := units_cons.mp hv
      obtain ⟨hw, hc, hr⟩ := hu.eq_of_append hv h
      rw [Prod.ext hw hc, ih hus hvs hr]

/-- A body spells a text exactly if it is cut into units for the characters of the text. -/
theorem spells_iff_units : Spells body s ↔ ∃ us, Units us ∧ bodyOf us = body ∧ valueOf us = s := by
  constructor
  · intro h
    induction h with
    | nil => exact ⟨[], units_nil, rfl, rfl⟩
    | @char c t s hp _ ih =>
      obtain ⟨us, hu, rfl, rfl⟩ := ih
      exact ⟨([c], c) :: us, units_cons.mpr ⟨.plain hp, hu⟩, rfl, rfl⟩
    | @escape e t s n c he hc _ ih =>
      obtain ⟨us, hu, rfl, rfl⟩ := ih
      obtain rfl := CodePoint.value_of_ofNat? hc
      exact ⟨(.scalar '\\' :: e, c) :: us, units_cons.mpr ⟨.escape he, hu⟩, rfl, rfl⟩
  · rintro ⟨us, hu, rfl, rfl⟩
    induction us with
    | nil => exact .nil
    | cons u us ih =>
      obtain ⟨w, c⟩ := u
      obtain ⟨hw, hus⟩ : BodyUnit w c ∧ Units us := units_cons.mp hu
      cases hw with
      | plain hp => exact .char hp (ih hus)
      | escape he => exact .escape he (CodePoint.ofNat?_value c) (ih hus)

/-- No line feed and no bare quote is in the body, and the first escape that makes no unit is a
number of more than 31 bits. -/
def OverflowsFirst (body : Text) : Prop :=
  .scalar '\n' ∉ body ∧ ¬ BareQuote body ∧
    ∃ us r, Units us ∧ body = bodyOf us ++ .scalar '\\' :: r ∧ TooLarge r

theorem overflowsFirst_iff : OverflowsFirst body ↔ ¬ BareQuote body ∧ Overflows body := by
  constructor
  · rintro ⟨hn, hq, us, r, hu, rfl, hr⟩
    exact ⟨hq, hn, bodyOf us, valueOf us, r, rfl, spells_iff_units.mpr ⟨us, hu, rfl, rfl⟩, hr⟩
  · rintro ⟨hq, hn, t, s, r, rfl, hs, hr⟩
    obtain ⟨us, hu, rfl, -⟩ := spells_iff_units.mp hs
    exact ⟨hn, hq, us, r, hu, rfl, hr⟩

theorem unquote_eq_ok_iff_units : unquote (.scalar '"' :: (body ++ [.scalar '"'])) = .ok s ↔
    ∃ us, Units us ∧ bodyOf us = body ∧ valueOf us = s := by
  rw [unquote_interpreted, interpret_eq_ok_iff, spells_iff_units]

theorem unquote_eq_overflow_iff_first :
    unquote (.scalar '"' :: (body ++ [.scalar '"'])) = .error .overflow ↔
      OverflowsFirst body := by
  rw [unquote_interpreted, interpret_eq_overflow_iff, overflowsFirst_iff, ← hasBareQuote_iff,
    Bool.not_eq_true]

theorem unquote_eq_other_error_iff :
    (∃ e, unquote (.scalar '"' :: (body ++ [.scalar '"'])) = .error e ∧ e ≠ .overflow) ↔
      (∀ us, Units us → bodyOf us ≠ body) ∧ ¬ OverflowsFirst body := by
  rw [← unquote_eq_overflow_iff_first]
  have hok : ∀ s, unquote (.scalar '"' :: (body ++ [.scalar '"'])) = .ok s ↔
      ∃ us, Units us ∧ bodyOf us = body ∧ valueOf us = s := fun _ => unquote_eq_ok_iff_units
  cases h : unquote (.scalar '"' :: (body ++ [.scalar '"'])) with
  | ok s =>
    obtain ⟨us, hu, hb, -⟩ := (hok s).mp h
    simp only [reduceCtorEq, false_and, exists_false, not_false_eq_true, and_true, false_iff]
    exact fun hall => hall us hu hb
  | error e =>
    have hall : ∀ us, Units us → bodyOf us ≠ body := by
      intro us hu hb
      cases h.symm.trans ((hok _).mpr ⟨us, hu, hb, rfl⟩)
    simp [and_iff_right hall]

theorem unquote_of_not_quoted (hi : ∀ body, literal ≠ .scalar '"' :: (body ++ [.scalar '"']))
    (hr : ∀ body, literal ≠ .scalar '`' :: (body ++ [.scalar '`'])) :
    unquote literal = .error (.unquoted literal) := by
  have hnone : ∀ quote, (∀ body, literal ≠ .scalar quote :: (body ++ [.scalar quote])) →
      between? quote literal = none := by
    intro quote h
    apply Option.eq_none_iff_forall_ne_some.mpr
    exact fun body hb => h body (between?_eq_some_iff.mp hb)
  simp only [unquote, hnone _ hi, hnone _ hr]

/-- An interpreted literal has a value exactly if its body is cut into units, which is so in one
way at most. A raw literal always has one, and what is no literal never has. -/
theorem unquote_reads_units (literal : Text) :
    (∀ body, literal = .scalar '"' :: (body ++ [.scalar '"']) →
      (∀ s, unquote literal = .ok s ↔ ∃ us, Units us ∧ bodyOf us = body ∧ valueOf us = s) ∧
      (∀ us vs, Units us → bodyOf us = body → Units vs → bodyOf vs = body → us = vs) ∧
      (unquote literal = .error .overflow ↔ OverflowsFirst body) ∧
      ((∃ e, unquote literal = .error e ∧ e ≠ .overflow) ↔
        (∀ us, Units us → bodyOf us ≠ body) ∧ ¬ OverflowsFirst body)) ∧
    (∀ body, literal = .scalar '`' :: (body ++ [.scalar '`']) →
      unquote literal = .ok (body.filter (· ≠ .scalar '\r'))) ∧
    ((∀ body, literal ≠ .scalar '"' :: (body ++ [.scalar '"'])) →
      (∀ body, literal ≠ .scalar '`' :: (body ++ [.scalar '`'])) →
      unquote literal = .error (.unquoted literal)) := by
  refine ⟨?_, ?_, unquote_of_not_quoted⟩
  · rintro body rfl
    refine ⟨fun s => unquote_eq_ok_iff_units, ?_, unquote_eq_overflow_iff_first,
      unquote_eq_other_error_iff⟩
    intro us vs hu hus hv hvs
    exact hu.eq_of_bodyOf hv (hus.trans hvs.symm)
  · rintro body rfl
    exact unquote_raw body

/-- Escapes of three kinds, a number that is too large behind a unit, a raw literal, and a text
between other quotes. -/
theorem unquote_units_of_escapes :
    unquote "\"\\u00e9\\101\\\\\"" = .ok "éA\\" ∧
      unquote "\"a\\UFFFFFFFF\\q\"" = .error .overflow ∧
      unquote "`a\r\\q`" = .ok "a\\q" ∧
      unquote "'a'" = .error (.unquoted "'a'") := by
  refine ⟨?_, ?_, ?_, ?_⟩
  · refine ((unquote_reads_units _).1 "\\u00e9\\101\\\\" rfl).1 _ |>.mpr
      ⟨[("\\u00e9", 'é'), ("\\101", 'A'), ("\\\\", '\\')], ?_, rfl, rfl⟩
    have hhex : Escape "u00e9" 0xE9 := .hex (by decide) rfl
    have hoctal : Escape "101" 0x41 := .octal (x := 1) (y := 0) (z := 1) rfl rfl rfl (by decide)
    have hletter : Escape "\\" 0x5C := .letter (by decide)
    simpa using ⟨BodyUnit.escape hhex, BodyUnit.escape hoctal, BodyUnit.escape hletter⟩
  · refine ((unquote_reads_units _).1 "a\\UFFFFFFFF\\q" rfl).2.2.1.mpr ⟨by decide, ?_, ?_⟩
    · rw [← hasBareQuote_iff]
      decide
    · have ha : BodyUnit "a" 'a' := .plain (by decide)
      have hplain : Units [("a", 'a')] := units_cons.mpr ⟨ha, units_nil⟩
      exact ⟨_, _, hplain, rfl, "FFFFFFFF", "\\q", 0xFFFFFFFF, rfl, rfl, rfl, by decide⟩
  · exact (unquote_reads_units _).2.1 "a\r\\q" rfl
  · refine (unquote_reads_units _).2.2 ?_ ?_ <;>
      exact fun body h => absurd (List.cons.inj h).1 (by decide)

end StructCli.Go.Literal
