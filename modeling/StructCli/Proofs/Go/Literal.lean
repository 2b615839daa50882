import Mathlib.Algebra.Group.Nat.Even
import StructCli.Proofs.Go.Escape
import StructCli.Proofs.Outcome

/-! # What a literal spells

The body of an interpreted literal is a sequence of characters and escapes. Unquoting gives their
values; where it does not, the body has a line feed, a quote that no backslash takes, or an
invalid escape.
-/

namespace StructCli.Go.Literal

/-- The values of the characters and escapes of a body. -/
inductive Spells : Text → Text → Prop where

  | nil : Spells [] []

  | char {c : CodePoint} {t s : Text} : Plain c → Spells t s → Spells (c :: t) (c :: s)

  | escape {e t s : Text} {n : Nat} {c : CodePoint} : Escape e n → CodePoint.ofNat? n = some c →
      Spells t s → Spells (.scalar '\\' :: (e ++ t)) (c :: s)

variable {literal body t s r e : Text} {c : CodePoint} {n : Nat} {odd : Bool}

theorem unescape_skip (e r : Text) : unescape literal e.length (e ++ r) = unescape literal 0 r := by
  induction e with
  | nil => rfl
  | cons c e ih => simpa [unescape] using ih

theorem unescape_of_escape (he : Escape e n) : unescape literal 0 (.scalar '\\' :: (e ++ r)) =
    codePoint n >>= fun c => (c :: ·) <$> unescape literal 0 r := by
  have h := escape?_eq_some_iff.mpr ⟨e, r, rfl, rfl, he⟩
  simp only [unescape, if_true, h, unescape_skip]
  rfl

theorem codePoint_of_some (h : CodePoint.ofNat? n = some c) : codePoint n = .ok c := by
  simp [codePoint, h]

theorem unescape_of_char (h : c ≠ .scalar '\\') :
    unescape literal 0 (c :: r) = (c :: ·) <$> unescape literal 0 r := by
  simp only [unescape, h, if_false]
  rfl

theorem Spells.unescape_append (h : Spells t s) (literal r : Text) :
    unescape literal 0 (t ++ r) = (s ++ ·) <$> unescape literal 0 r := by
  induction h with
  | nil => cases h : unescape literal 0 r <;> simp [h, Functor.map, Except.map]
  | char hp _ ih =>
    rw [List.cons_append, unescape_of_char hp.1, ih]
    cases unescape literal 0 r <;> rfl
  | escape he hc _ ih =>
    rw [List.cons_append, List.append_assoc, unescape_of_escape he, codePoint_of_some hc, ih]
    cases unescape literal 0 r <;> rfl

theorem Spells.unescape_eq (h : Spells t s) : unescape literal 0 t = .ok s := by
  have := h.unescape_append literal []
  rw [List.append_nil] at this
  simpa [unescape, Functor.map, Except.map] using this

theorem Spells.newline_not_mem (h : Spells t s) : .scalar '\n' ∉ t := by
  induction h with
  | nil => exact List.not_mem_nil
  | char hp _ ih => simp [Ne.symm hp.2.2, ih]
  | @escape e t s n c he _ _ ih =>
    have hn : CodePoint.scalar '\n' ∉ e := by
      rcases he.shape with rfl | rfl | hp
      · decide
      · decide
      · exact fun hc => (hp _ hc).2.2 rfl
    simp [hn, ih]

theorem hasBareQuote_of_plain (odd : Bool) (hp : ∀ c ∈ e, Plain c) (hn : e ≠ []) :
    hasBareQuote odd (e ++ r) = hasBareQuote false r := by
  induction e generalizing odd with
  | nil => exact absurd rfl hn
  | cons c e ih =>
    obtain ⟨hb, hq, -⟩ := hp c List.mem_cons_self
    simp only [List.cons_append, hasBareQuote, hb, hq, if_false]
    cases e with
    | nil => simp
    | cons d e =>
      simpa using ih false (fun c hc => hp c (List.mem_cons_of_mem _ hc)) (by simp)

theorem hasBareQuote_of_escape (h : Escape e n) :
    hasBareQuote false (.scalar '\\' :: (e ++ r)) = hasBareQuote false r := by
  rcases h.shape with rfl | rfl | hp
  · simp [hasBareQuote]
  · simp [hasBareQuote]
  · simpa [hasBareQuote] using hasBareQuote_of_plain true hp h.ne_nil

theorem Spells.hasBareQuote_append (h : Spells t s) (r : Text) :
    hasBareQuote false (t ++ r) = hasBareQuote false r := by
  induction h with
  | nil => rfl
  | @char c t s hp _ ih =>
    rw [← ih]
    exact hasBareQuote_of_plain false (e := [c]) (by simpa using hp) (by simp)
  | escape he _ _ ih =>
    rw [List.cons_append, List.append_assoc, hasBareQuote_of_escape he, ih]

/-- What stands after the backslash is no escape, or denotes no code point. -/
def Invalid (r : Text) : Prop := ∀ n k, escape? r = some (n, k) → CodePoint.ofNat? n = none

theorem plain_of_not_bareQuote (hb : c ≠ .scalar '\\') (hn : c ≠ .scalar '\n')
    (hq : hasBareQuote false (c :: r) = false) : Plain c ∧ hasBareQuote false r = false := by
  have hc : c ≠ .scalar '"' := by
    rintro rfl
    simp [hasBareQuote] at hq
  have hp : Plain c := ⟨hb, hc, hn⟩
  rw [← hasBareQuote_of_plain false (e := [c]) (by simpa using hp) (by simp)]
  exact ⟨hp, hq⟩

theorem escape_of_not_invalid (h : ¬ Invalid r) :
    ∃ e t n c, r = e ++ t ∧ Escape e n ∧ CodePoint.ofNat? n = some c := by
  simp only [Invalid, not_forall] at h
  obtain ⟨n, k, he, ho⟩ := h
  obtain ⟨c, hc⟩ := Option.ne_none_iff_exists'.mp ho
  obtain ⟨e, t, rfl, -, hx⟩ := escape?_eq_some_iff.mp he
  exact ⟨e, t, n, c, rfl, hx, hc⟩

/-- A body without line feeds and bare quotes spells a text, or does so up to its first invalid
escape. -/
theorem spells_or_invalid (hn : .scalar '\n' ∉ body) (hq : hasBareQuote false body = false) :
    (∃ s, Spells body s) ∨
      ∃ t s r, body = t ++ .scalar '\\' :: r ∧ Spells t s ∧ Invalid r := by
  -- an escape takes several characters, so that the induction is on the length
  induction hl : body.length using Nat.strong_induction_on generalizing body with
  | _ l ih =>
    subst hl
    cases body with
    | nil => exact .inl ⟨[], .nil⟩
    | cons c r =>
      obtain ⟨hc, hr⟩ := not_or.mp (List.mem_cons.not.mp hn)
      by_cases hb : c = .scalar '\\'
      · subst hb
        by_cases hi : Invalid r
        · exact .inr ⟨[], [], r, rfl, .nil, hi⟩
        · obtain ⟨e, t, n, d, rfl, he, hd⟩ := escape_of_not_invalid hi
          rw [hasBareQuote_of_escape he] at hq
          have hlt : t.length < (CodePoint.scalar '\\' :: (e ++ t)).length := by
            rw [List.length_cons, List.length_append]
            omega
          rcases ih t.length hlt (fun h => hr (List.mem_append_right e h)) hq rfl with
            ⟨s, hs⟩ | ⟨u, s, r', rfl, hs, hi⟩
          · exact .inl ⟨_, .escape he hd hs⟩
          · exact .inr ⟨_, _, r', by simp, .escape he hd hs, hi⟩
      · obtain ⟨hp, hq⟩ := plain_of_not_bareQuote hb (Ne.symm hc) hq
        rcases ih r.length (Nat.lt_succ_self _) hr hq rfl with ⟨s, hs⟩ | ⟨t, s, r', rfl, hs, hi⟩
        · exact .inl ⟨_, .char hp hs⟩
        · exact .inr ⟨_, _, r', by simp, .char hp hs, hi⟩

theorem ofNat?_eq_none_iff : CodePoint.ofNat? n = none ↔ 0x110000 ≤ n := by
  unfold CodePoint.ofNat?
  split
  · simp only [reduceCtorEq, false_iff]; omega
  · split
    · simp only [reduceCtorEq, false_iff]; omega
    · simp only [true_iff]; omega

def TooLarge (r : Text) : Prop :=
  ∃ ds r' n, r = .scalar 'U' :: (ds ++ r') ∧ ds.length = 8 ∧ hexNumberOf? ds = some n ∧
    0x7fffffff < n

theorem escape?_of_tooLarge (h : TooLarge r) :
    ∃ n, escape? r = some (n, 9) ∧ 0x7fffffff < n := by
  obtain ⟨ds, r', n, rfl, hl, hd, hn⟩ := h
  have he : Escape (.scalar 'U' :: ds) n := .hex (by simp [hl]) hd
  exact ⟨n, escape?_eq_some_iff.mpr ⟨_, r', rfl, by simp [hl], he⟩, hn⟩

theorem TooLarge.invalid (h : TooLarge r) : Invalid r := by
  obtain ⟨n, he, hn⟩ := escape?_of_tooLarge h
  intro m k hm
  obtain ⟨rfl, -⟩ := Prod.mk.inj (Option.some.inj (he.symm.trans hm))
  exact ofNat?_eq_none_iff.mpr (by omega)

theorem unescape_of_invalid (literal : Text) (h : Invalid r) : ∃ e,
    unescape literal 0 (.scalar '\\' :: r) = .error e ∧ (e = .overflow ↔ TooLarge r) := by
  cases he : escape? r with
  | none =>
    refine ⟨.invalidEscape (r.take 1) literal, by simp [unescape, he], ?_⟩
    simp only [reduceCtorEq, false_iff]
    intro hl
    obtain ⟨n, hn, -⟩ := escape?_of_tooLarge hl
    rw [he] at hn
    cases hn
  | some p =>
    obtain ⟨n, k⟩ := p
    have hnone := h n k he
    obtain ⟨e, r', rfl, rfl, hx⟩ := escape?_eq_some_iff.mp he
    refine ⟨if n < 0x80000000 then .notCodePoint else .overflow, ?_, ?_⟩
    · rw [unescape_of_escape hx, codePoint, hnone]
      rfl
    · constructor
      · intro hn
        rcases hx.lt_or_long with hlt | ⟨ds, rfl, hl, hd⟩
        · simp [hlt] at hn
        · exact ⟨ds, r', n, rfl, hl, hd, by by_contra hc; simp [show n < 0x80000000 by omega] at hn⟩
      · intro hl
        obtain ⟨m, hm, hlt⟩ := escape?_of_tooLarge hl
        obtain ⟨rfl, -⟩ := Prod.mk.inj (Option.some.inj (he.symm.trans hm))
        rw [if_neg (by omega)]

theorem interpret_eq_ok_iff : interpret literal body = .ok s ↔ Spells body s := by
  constructor
  · intro h
    unfold interpret at h
    split at h
    · cases h
    · next hc =>
      obtain ⟨hn, hq⟩ := not_or.mp hc
      rcases spells_or_invalid hn (Bool.eq_false_iff.mpr hq) with ⟨s', hs⟩ | ⟨t, s', r, rfl, hs, hi⟩
      · rw [hs.unescape_eq] at h
        exact Except.ok.inj h ▸ hs
      · obtain ⟨e, he, -⟩ := unescape_of_invalid literal hi
        rw [hs.unescape_append, he] at h
        cases h
  · intro h
    have hq := h.hasBareQuote_append []
    rw [List.append_nil] at hq
    simp [interpret, h.newline_not_mem, hq, hasBareQuote, h.unescape_eq]

/-- The first invalid escape of a body without line feeds is a number of more than 31 bits. -/
def Overflows (body : Text) : Prop :=
  .scalar '\n' ∉ body ∧ ∃ t s r, body = t ++ .scalar '\\' :: r ∧ Spells t s ∧ TooLarge r

theorem interpret_eq_overflow_iff : interpret literal body = .error .overflow ↔
    hasBareQuote false body = false ∧ Overflows body := by
  constructor
  · intro h
    unfold interpret at h
    split at h
    · cases h
    · next hc =>
      obtain ⟨hn, hq⟩ := not_or.mp hc
      have hq := Bool.eq_false_iff.mpr hq
      refine ⟨hq, hn, ?_⟩
      rcases spells_or_invalid hn hq with ⟨s, hs⟩ | ⟨t, s, r, rfl, hs, hi⟩
      · rw [hs.unescape_eq] at h
        cases h
      · obtain ⟨e, he, ho⟩ := unescape_of_invalid literal hi
        rw [hs.unescape_append, he] at h
        exact ⟨t, s, r, rfl, hs, ho.mp (Except.error.inj h)⟩
  · rintro ⟨hq, hn, t, s, r, rfl, hs, hl⟩
    obtain ⟨e, he, ho⟩ := unescape_of_invalid literal hl.invalid
    rw [interpret, if_neg (by simp [hn, hq]), hs.unescape_append, he, ho.mpr hl]
    rfl

def trailingBackslashes (t : Text) : Nat := (t.reverse.takeWhile (· = .scalar '\\')).length

theorem trailingBackslashes_concat (t : Text) (c : CodePoint) : trailingBackslashes (t ++ [c]) =
    if c = .scalar '\\' then trailingBackslashes t + 1 else 0 := by
  by_cases h : c = .scalar '\\' <;> simp [trailingBackslashes, h]

/-- An even number of backslashes stands before some double quote. -/
def BareQuote (body : Text) : Prop :=
  ∃ a b, body = a ++ .scalar '"' :: b ∧ Even (trailingBackslashes a)

theorem exists_quote_cons_iff (before : Text) :
    (∃ a b, c :: r = a ++ .scalar '"' :: b ∧ Even (trailingBackslashes (before ++ a))) ↔
      (c = .scalar '"' ∧ Even (trailingBackslashes before)) ∨
        ∃ a b, r = a ++ .scalar '"' :: b ∧ Even (trailingBackslashes (before ++ [c] ++ a)) := by
  constructor
  · rintro ⟨a, b, h, he⟩
    cases a with
    | nil =>
      obtain ⟨rfl, rfl⟩ := List.cons.inj h
      exact .inl ⟨rfl, by simpa using he⟩
    | cons d a =>
      obtain ⟨rfl, rfl⟩ := List.cons.inj h
      exact .inr ⟨a, b, rfl, by simpa using he⟩
  · rintro (⟨rfl, he⟩ | ⟨a, b, rfl, he⟩)
    · exact ⟨[], r, rfl, by simpa using he⟩
    · exact ⟨c :: a, b, rfl, by simpa using he⟩

/-- The scan knows the parity of the backslashes before the rest of the body. -/
theorem hasBareQuote_iff_of_before (before body : Text) :
    hasBareQuote (decide (¬ Even (trailingBackslashes before))) body = true ↔
      ∃ a b, body = a ++ .scalar '"' :: b ∧ Even (trailingBackslashes (before ++ a)) := by
  induction body generalizing before with
  | nil => simp [hasBareQuote]
  | cons c r ih =>
    have hstep := ih (before ++ [c])
    rw [trailingBackslashes_concat] at hstep
    rw [exists_quote_cons_iff, ← hstep]
    by_cases hb : c = .scalar '\\'
    · subst hb
      have hflip : (!decide (¬ Even (trailingBackslashes before))) =
          decide (¬ Even (trailingBackslashes before + 1)) := by
        by_cases he : Even (trailingBackslashes before) <;>
          simp only [Nat.even_add_one, he, not_true_eq_false, not_false_eq_true, decide_true,
            decide_false, Bool.not_true, Bool.not_false]
      simp only [hasBareQuote, if_true, hflip, CodePoint.scalar.injEq, Char.reduceEq,
        false_and, false_or]
    · by_cases hq : c = .scalar '"' <;> simp [hasBareQuote, hb, hq]

theorem hasBareQuote_iff : hasBareQuote false body = true ↔ BareQuote body := by
  simpa [BareQuote, trailingBackslashes] using hasBareQuote_iff_of_before [] body

theorem between?_eq_some_iff {quote : Char} : between? quote literal = some body ↔
    literal = .scalar quote :: (body ++ [.scalar quote]) := by
  cases literal with
  | nil => simp [between?]
  | cons c r =>
    simp only [between?]
    constructor
    · intro h
      split at h
      · next hc =>
        obtain rfl := Option.some.inj h
        rw [hc.1, List.dropLast_append_getLast? _ hc.2]
      · cases h
    · rintro h
      obtain ⟨rfl, rfl⟩ := List.cons.inj h
      simp

theorem unquote_interpreted (body : Text) : unquote (.scalar '"' :: (body ++ [.scalar '"'])) =
    interpret (.scalar '"' :: (body ++ [.scalar '"'])) body := by
  have hb : between? '`' (.scalar '"' :: (body ++ [.scalar '"'])) = none := by
    cases h : between? '`' (.scalar '"' :: (body ++ [.scalar '"'])) with
    | none => rfl
    | some b => simpa using between?_eq_some_iff.mp h
  simp only [unquote, hb, between?_eq_some_iff.mpr rfl]

theorem unquote_raw (body : Text) : unquote (.scalar '`' :: (body ++ [.scalar '`'])) =
    .ok (body.filter (· ≠ .scalar '\r')) := by
  simp only [unquote, between?_eq_some_iff.mpr rfl]

/-- Only interpreted literals overflow, those that are well formed up to an escape that is too
large. -/
theorem unquote_eq_overflow_iff : unquote literal = .error .overflow ↔
    ∃ body, literal = .scalar '"' :: (body ++ [.scalar '"']) ∧ ¬ BareQuote body ∧
      Overflows body := by
  constructor
  · intro h
    cases hr : between? '`' literal with
    | some body => simp [unquote, hr] at h
    | none =>
      cases hi : between? '"' literal with
      | none => simp [unquote, hr, hi] at h
      | some body =>
        simp only [unquote, hr, hi, interpret_eq_overflow_iff] at h
        refine ⟨body, between?_eq_some_iff.mp hi, ?_, h.2⟩
        rw [← hasBareQuote_iff, Bool.not_eq_true]
        exact h.1
  · rintro ⟨body, rfl, hq, ho⟩
    rw [unquote_interpreted, interpret_eq_overflow_iff]
    rw [← hasBareQuote_iff, Bool.not_eq_true] at hq
    exact ⟨hq, ho⟩

end StructCli.Go.Literal
