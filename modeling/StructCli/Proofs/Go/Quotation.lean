import Mathlib.Data.List.Induction
import StructCli.Proofs.Go.Lookup

/-! # Quoted values of a struct tag

The scan of a tag ends a value at the first double quote that an even number of backslashes
precedes, and unquoting refuses a literal that has such a quote inside. So a lookup asks for the
value of nothing but quotations, which are refused for a line feed or an invalid escape only.
-/

namespace StructCli.Go

namespace Literal

/-- At least two characters, a double quote at either end, and none in between that an even number
of backslashes precedes. -/
structure Quotation (literal : Text) : Prop where
  long : 2 ≤ literal.length
  first : literal.head? = some (.scalar '"')
  last : literal.getLast? = some (.scalar '"')
  inner : ¬ BareQuote literal.tail.dropLast

/-- What is wrong with a text that stands after a backslash of the literal. -/
inductive EscapeFault (literal : Text) : Text → LiteralError → Prop where

  | unknown {r : Text} : (∀ e t n, Escape e n → r ≠ e ++ t) →
      EscapeFault literal r (.invalidEscape (r.take 1) literal)

  | outOfRange {e : Text} {n : Nat} (t : Text) : Escape e n → 0x110000 ≤ n → n < 0x80000000 →
      EscapeFault literal (e ++ t) .notCodePoint

  | tooLarge {e : Text} {n : Nat} (t : Text) : Escape e n → 0x80000000 ≤ n →
      EscapeFault literal (e ++ t) .overflow

/-- The error for a line feed in the body of the literal, or else for its first invalid escape. -/
inductive Refused (literal body : Text) : LiteralError → Prop where

  | newline : .scalar '\n' ∈ body → Refused literal body (.invalid literal)

  | escape {t s r : Text} {e : LiteralError} : .scalar '\n' ∉ body → body = t ++ .scalar '\\' :: r →
      Spells t s → EscapeFault literal r e → Refused literal body e

variable {literal body a b r : Text} {n : Nat} {e : LiteralError}

theorem quotation_iff : Quotation literal ↔
    ∃ body, literal = .scalar '"' :: (body ++ [.scalar '"']) ∧ ¬ BareQuote body := by
  constructor
  · rintro ⟨hlong, hfirst, hlast, hinner⟩
    obtain ⟨r, rfl⟩ := List.head?_eq_some_iff.mp hfirst
    obtain ⟨c, r, rfl⟩ := List.exists_cons_of_ne_nil (l := r) (by rintro rfl; simp at hlong)
    rw [List.getLast?_cons_cons] at hlast
    refine ⟨(c :: r).dropLast, ?_, hinner⟩
    rw [List.dropLast_append_getLast? _ hlast]
  · rintro ⟨body, rfl, hinner⟩
    refine ⟨by simp, rfl, ?_, by simpa using hinner⟩
    rw [← List.cons_append, List.getLast?_concat]

/-! ## How a quotation is refused -/

theorem exists_fault_of_invalid (literal : Text) (h : Invalid r) :
    ∃ e, EscapeFault literal r e := by
  cases hr : escape? r with
  | none =>
    refine ⟨_, .unknown ?_⟩
    rintro e t n he rfl
    rw [escape?_complete he t] at hr
    cases hr
  | some p =>
    obtain ⟨n, k⟩ := p
    have hn := ofNat?_eq_none_iff.mp (h n k hr)
    obtain ⟨e, t, rfl, -, he⟩ := escape?_eq_some_iff.mp hr
    rcases Nat.lt_or_ge n 0x80000000 with hlt | hge
    · exact ⟨_, .outOfRange t he hn hlt⟩
    · exact ⟨_, .tooLarge t he hge⟩

theorem codePoint_of_large (h : 0x110000 ≤ n) :
    codePoint n = .error (if n < 0x80000000 then .notCodePoint else .overflow) := by
  simp only [codePoint, ofNat?_eq_none_iff.mpr h]

theorem EscapeFault.unescape_eq (h : EscapeFault literal r e) :
    unescape literal 0 (.scalar '\\' :: r) = .error e := by
  cases h with
  | unknown hr =>
    have hnone : escape? r = none := by
      apply Option.eq_none_iff_forall_ne_some.mpr
      rintro ⟨n, k⟩ hs
      obtain ⟨e, t, rfl, -, he⟩ := escape?_eq_some_iff.mp hs
      exact hr e t n he rfl
    simp only [unescape, if_true, hnone]
  | outOfRange t he hn hlt =>
    rw [unescape_of_escape he, codePoint_of_large hn, if_pos hlt]
    rfl
  | tooLarge t he hn =>
    rw [unescape_of_escape he, codePoint_of_large (by omega), if_neg (by omega)]
    rfl

theorem Refused.interpret_eq (hq : ¬ BareQuote body) (h : Refused literal body e) :
    interpret literal body = .error e := by
  rw [← hasBareQuote_iff] at hq
  cases h with
  | newline hn => exact if_pos (.inl hn)
  | escape hn hb hs hf =>
    rw [interpret, if_neg (not_or.mpr ⟨hn, hq⟩), hb, hs.unescape_append, hf.unescape_eq]
    rfl

/-- Without a bare quote, a body is refused for a line feed or an invalid escape, and for nothing
else. -/
theorem interpret_eq_error_iff (hq : ¬ BareQuote body) :
    interpret literal body = .error e ↔ Refused literal body e := by
  constructor
  · intro h
    have hrefused : ∃ e, Refused literal body e := by
      by_cases hn : .scalar '\n' ∈ body
      · exact ⟨_, .newline hn⟩
      · have hquote := Bool.eq_false_iff.mpr (hasBareQuote_iff.not.mpr hq)
        rcases spells_or_invalid hn hquote with ⟨s, hs⟩ | ⟨t, s, r, hb, hs, hi⟩
        · rw [interpret_eq_ok_iff.mpr hs] at h
          cases h
        · obtain ⟨e, hf⟩ := exists_fault_of_invalid literal hi
          exact ⟨e, .escape hn hb hs hf⟩
    obtain ⟨e', hr⟩ := hrefused
    exact Except.error.inj (h.symm.trans (hr.interpret_eq hq)) ▸ hr
  · exact Refused.interpret_eq hq

/-! ## Backslashes before a quote -/

theorem trailingBackslashes_append (a b : Text) : trailingBackslashes (a ++ b) =
    if trailingBackslashes b = b.length then b.length + trailingBackslashes a
    else trailingBackslashes b := by
  rw [trailingBackslashes, List.reverse_append, List.takeWhile_append, apply_ite List.length,
    List.length_append, List.length_reverse]
  rfl

theorem BareQuote.append (h : BareQuote a) (b : Text) : BareQuote (a ++ b) := by
  obtain ⟨a, c, rfl, he⟩ := h
  exact ⟨a, c ++ b, by simp, he⟩

end Literal

namespace StructTag

open Literal

variable {tag key name body t a b r : Text}

theorem Body.append (ha : Body a) (hb : Body b) : Body (a ++ b) := by
  induction ha with
  | nil => exact hb
  | char hq hs _ ih => exact .char hq hs ih
  | escape _ ih => exact .escape ih

theorem Body.even_trailingBackslashes (h : Body b) : Even (trailingBackslashes b) := by
  induction h with
  | nil => exact Even.zero
  | @char c t hq hs _ ih =>
    have hc : trailingBackslashes [c] = 0 := by simp [trailingBackslashes, hs]
    rw [← List.singleton_append, trailingBackslashes_append, hc]
    split
    · next hl => exact hl ▸ ih
    · exact ih
  | @escape c t _ ih =>
    have hc : Even (trailingBackslashes [.scalar '\\', c]) := by
      by_cases hs : c = .scalar '\\'
      · subst hs
        decide
      · simp [trailingBackslashes, hs]
    rw [← List.singleton_append (l := c :: t), ← List.singleton_append (l := t),
      ← List.append_assoc, trailingBackslashes_append]
    split
    · next hl => exact (hl ▸ ih).add hc
    · exact ih

/-- The scan, having read a text without bare quotes, stands behind a backslash that takes the next
character exactly if the number of backslashes behind it is odd. -/
theorem body_or_pending (h : ¬ BareQuote b) :
    (Body b ∧ Even (trailingBackslashes b)) ∨
      ((∃ t, b = t ++ [.scalar '\\'] ∧ Body t) ∧ ¬ Even (trailingBackslashes b)) := by
  induction b using List.reverseRecOn with
  | nil => exact .inl ⟨.nil, Even.zero⟩
  | append_singleton b c ih =>
    have hb : ¬ BareQuote b := fun hb => h (hb.append [c])
    rw [trailingBackslashes_concat]
    rcases ih hb with ⟨hbody, heven⟩ | ⟨⟨t, rfl, ht⟩, hodd⟩
    · by_cases hs : c = .scalar '\\'
      · subst hs
        rw [if_pos rfl, Nat.even_add_one]
        exact .inr ⟨⟨b, rfl, hbody⟩, not_not.mpr heven⟩
      · rw [if_neg hs]
        have hq : c ≠ .scalar '"' := by
          rintro rfl
          exact h ⟨b, [], rfl, heven⟩
        exact .inl ⟨hbody.append (.char hq hs .nil), Even.zero⟩
    · rw [List.append_assoc]
      refine .inl ⟨ht.append (.escape .nil), ?_⟩
      split
      · exact Nat.even_add_one.mpr hodd
      · exact Even.zero

theorem body_iff : Body b ↔ ¬ BareQuote b ∧ Even (trailingBackslashes b) := by
  constructor
  · intro h
    rw [← hasBareQuote_iff, Bool.not_eq_true]
    exact ⟨h.hasBareQuote, h.even_trailingBackslashes⟩
  · rintro ⟨hq, heven⟩
    rcases body_or_pending hq with ⟨hb, -⟩ | ⟨-, hodd⟩
    · exact hb
    · exact absurd heven hodd

/-! ## What the scan cuts out -/

theorem Body.quotation (h : Body body) : Quotation (enclose body) :=
  quotation_iff.mpr ⟨body, rfl, (body_iff.mp h).1⟩

theorem cut_of_mem_pairs (h : (name, body) ∈ pairs tag) : Body body ∧ enclose body <:+: tag := by
  induction tag using pair_induction with
  | stop rest hn =>
    rw [pairs_of_none hn] at h
    cases h
  | pair w name' body' rest hw ih =>
    rw [pairs_append hw] at h
    rcases List.mem_cons.mp h with h | h
    · obtain ⟨rfl, rfl⟩ := Prod.mk.inj h
      obtain ⟨-, hb, n, rfl⟩ := hw
      exact ⟨hb, List.replicate n (.scalar ' ') ++ name ++ [.scalar ':'], rest, by simp⟩
    · obtain ⟨hb, hi⟩ := ih h
      exact ⟨hb, hi.trans (List.suffix_append w rest).isInfix⟩

/-- Looks up a name, with `read` in the place of unquoting. -/
def lookupWith (read : Text → Except LiteralError Text) (tag key : Text) :
    Except LiteralError (Option Text) :=
  match (pairs tag).lookup key with
  | none => .ok none
  | some body =>
    match read (enclose body) with
    | .ok v => .ok (some v)
    | .error .overflow => .error .overflow
    | .error _ => .ok none

theorem lookup_eq_lookupWith (tag key : Text) :
    lookup tag key = lookupWith Literal.unquote tag key := rfl

theorem mem_of_lookup_eq_some {ps : List (Text × Text)} (h : ps.lookup key = some body) :
    (key, body) ∈ ps := by
  obtain ⟨before, after, rfl, -⟩ := List.lookup_eq_some_iff.mp h
  simp

/-- A value ends at the first double quote that an even number of backslashes precedes. What the
scan cuts out of the tag is therefore a quotation, which unquoting refuses for its line feeds and
escapes only. Nothing but quotations of the tag is ever unquoted. -/
theorem lookup_unquotes_quotations (tag key : Text) :
    (∀ t b r, body? t = some (b, r) ↔
      t = b ++ .scalar '"' :: r ∧ ¬ BareQuote b ∧ Even (trailingBackslashes b)) ∧
    (∀ name body, (name, body) ∈ pairs tag →
      enclose body <:+: tag ∧ Quotation (enclose body) ∧
      ∀ e, Literal.unquote (enclose body) = .error e ↔ Refused (enclose body) body e) ∧
    (∀ read : Text → Except LiteralError Text,
      (∀ literal, literal <:+: tag → Quotation literal →
        read literal = Literal.unquote literal) →
      lookupWith read tag key = lookup tag key) := by
  refine ⟨fun t b r => ?_, fun name body h => ?_, fun read hread => ?_⟩
  · rw [body?_eq_some_iff, body_iff, and_comm]
  · obtain ⟨hbody, hpart⟩ := cut_of_mem_pairs h
    refine ⟨hpart, hbody.quotation, fun e => ?_⟩
    rw [unquote_enclose, interpret_eq_error_iff (body_iff.mp hbody).1]
  · rw [lookup_eq_lookupWith, lookupWith, lookupWith]
    cases hl : (pairs tag).lookup key with
    | none => rfl
    | some body =>
      obtain ⟨hbody, hpart⟩ := cut_of_mem_pairs (mem_of_lookup_eq_some hl)
      dsimp only
      rw [hread _ hpart hbody.quotation]

/-- Two backslashes end the first value, one takes the quote of the second, and the third has no
end. A reader that refuses all that is not quoted does as well. -/
theorem quotations_after_backslashes :
    let tag : Text := "a:\"\\\\\" b:\"\\\"\\q\" c:\"x\\\""
    Quotation "\"\\\\\"" ∧ Quotation "\"\\\"\\q\"" ∧
      Refused "\"\\\"\\q\"" "\\\"\\q" (.invalidEscape "q" "\"\\\"\\q\"") ∧
      lookupWith (fun t => if t.head? = some (.scalar '"') then Literal.unquote t
        else .error (.unquoted t)) tag "b" = lookup tag "b" := by
  intro tag
  obtain ⟨-, hcut, hread⟩ := lookup_unquotes_quotations tag "b"
  obtain ⟨-, hfirst, -⟩ := hcut "a" "\\\\" (by decide)
  obtain ⟨-, hsecond, hrefused⟩ := hcut "b" "\\\"\\q" (by decide)
  exact ⟨hfirst, hsecond, (hrefused _).mp rfl, hread _ fun _ _ hq => if_pos hq.first⟩

end StructTag

end StructCli.Go
