import StructCli.Proofs.Go.Pairs

/-! # Looking up a name

The value of a name is that of the first pair that has the name. Neither what follows that pair
nor what follows a malformed pair matters.
-/

namespace StructCli.Go.StructTag

variable {tag tag' key name body v w r rest : Text} {before : List Text} {e : LiteralError}

theorem Body.hasBareQuote (h : Body body) : Literal.hasBareQuote false body = false := by
  induction h with
  | nil => rfl
  | char hq hb _ ih => simp [Literal.hasBareQuote, hq, hb, ih]
  | @escape c t _ ih => by_cases hb : c = .scalar '\\' <;> simp [Literal.hasBareQuote, hb, ih]

theorem unquote_enclose (body : Text) :
    Literal.unquote (enclose body) = Literal.interpret (enclose body) body :=
  Literal.unquote_interpreted body

theorem Body.unquote_eq_overflow_iff (h : Body body) :
    Literal.unquote (enclose body) = .error .overflow ↔ Literal.Overflows body := by
  rw [unquote_enclose, Literal.interpret_eq_overflow_iff, and_iff_right h.hasBareQuote]

theorem FirstPair.isBody (h : FirstPair tag key body) : Body body := by
  obtain ⟨_, _, _, _, hw, _⟩ := h
  exact hw.2.1

theorem FirstPair.isName (h : FirstPair tag key body) : Name key := by
  obtain ⟨_, _, _, _, hw, _⟩ := h
  exact hw.1

theorem lookup_of_firstPair (h : FirstPair tag key body) : lookup tag key =
    match Literal.unquote (enclose body) with
    | .ok v => .ok (some v)
    | .error .overflow => .error .overflow
    | .error _ => .ok none := by
  have hp := lookup_pairs_eq_some_iff.mpr h
  unfold lookup
  split
  · next hn =>
    rw [hp] at hn
    cases hn
  · next b hb =>
    obtain rfl := Option.some.inj (hp.symm.trans hb)
    rfl

theorem lookup_of_no_pair (h : ∀ body, ¬ FirstPair tag key body) : lookup tag key = .ok none := by
  cases hl : (pairs tag).lookup key with
  | none => rw [lookup, hl]
  | some body => exact absurd (lookup_pairs_eq_some_iff.mp hl) (h body)

theorem lookup_eq_some_iff : lookup tag key = .ok (some v) ↔
    ∃ body, FirstPair tag key body ∧ Literal.unquote (enclose body) = .ok v := by
  constructor
  · intro h
    by_cases hp : ∃ body, FirstPair tag key body
    · obtain ⟨body, hp⟩ := hp
      refine ⟨body, hp, ?_⟩
      rw [lookup_of_firstPair hp] at h
      split at h
      · next u hu => rw [hu, Option.some.inj (Except.ok.inj h)]
      · cases h
      · cases h
    · rw [lookup_of_no_pair (not_exists.mp hp)] at h
      cases h
  · rintro ⟨body, hp, hu⟩
    rw [lookup_of_firstPair hp, hu]

theorem lookup_eq_error_iff : lookup tag key = .error e ↔
    e = .overflow ∧ ∃ body, FirstPair tag key body ∧ Literal.Overflows body := by
  constructor
  · intro h
    by_cases hp : ∃ body, FirstPair tag key body
    · obtain ⟨body, hp⟩ := hp
      rw [lookup_of_firstPair hp] at h
      split at h
      · cases h
      · next hu =>
        exact ⟨(Except.error.inj h).symm, body, hp, hp.isBody.unquote_eq_overflow_iff.mp hu⟩
      · cases h
    · rw [lookup_of_no_pair (not_exists.mp hp)] at h
      cases h
  · rintro ⟨rfl, body, hp, ho⟩
    rw [lookup_of_firstPair hp, hp.isBody.unquote_eq_overflow_iff.mpr ho]

theorem lookup_eq_none_iff : lookup tag key = .ok none ↔ ∀ body, FirstPair tag key body →
    (∀ v, Literal.unquote (enclose body) ≠ .ok v) ∧ ¬ Literal.Overflows body := by
  constructor
  · intro h body hp
    constructor
    · intro v hv
      rw [lookup_eq_some_iff.mpr ⟨body, hp, hv⟩] at h
      cases h
    · intro ho
      rw [lookup_eq_error_iff.mpr ⟨rfl, body, hp, ho⟩] at h
      cases h
  · intro h
    cases hl : lookup tag key with
    | error e =>
      obtain ⟨-, body, hp, ho⟩ := lookup_eq_error_iff.mp hl
      exact absurd ho (h body hp).2
    | ok o =>
      cases o with
      | none => rfl
      | some v =>
        obtain ⟨body, hp, hv⟩ := lookup_eq_some_iff.mp hl
        exact absurd hv ((h body hp).1 v)

theorem lookup_congr (h : (pairs tag).lookup key = (pairs tag').lookup key) :
    lookup tag key = lookup tag' key := by
  rw [lookup, lookup, h]

/-- No pair stands at the front. -/
def Malformed (t : Text) : Prop := ∀ w name body rest, Pair w name body → t ≠ w ++ rest

theorem Malformed.pairs_eq (h : Malformed r) : pairs r = [] := by
  apply pairs_of_none
  apply Option.eq_none_iff_forall_ne_some.mpr
  rintro ⟨name, body, rest⟩ hp
  obtain ⟨w, hw, he⟩ := pair?_eq_some_iff.mp hp
  exact h w name body rest hw he

theorem pairs_append_malformed (h : ∀ b ∈ before, ∃ name body, Pair b name body)
    (hr : Malformed r) : pairs (before.flatten ++ r) = pairs before.flatten := by
  induction before with
  | nil => exact hr.pairs_eq
  | cons b before ih =>
    obtain ⟨name, body, hb⟩ := h b List.mem_cons_self
    rw [List.flatten_cons, List.append_assoc, pairs_append hb, pairs_append hb,
      ih fun b hb => h b (List.mem_cons_of_mem _ hb)]

theorem lookup_first_pair_append
    (h : ∀ b ∈ before, ∃ name body, Pair b name body ∧ name ≠ key) (hw : Pair w key body)
    (rest rest' : Text) :
    lookup (before.flatten ++ w ++ rest) key = lookup (before.flatten ++ w ++ rest') key := by
  have hp : ∀ rest, (pairs (before.flatten ++ w ++ rest)).lookup key = some body :=
    fun rest => lookup_pairs_eq_some_iff.mpr ⟨before, w, rest, h, hw, rfl⟩
  exact lookup_congr ((hp rest).trans (hp rest').symm)

/-- The scan of a tag ends, and finds the first pair of a name, whatever stands behind it. -/
theorem lookup_reads_first_pair (tag key : Text) :
    (∀ fuel, tag.length ≤ fuel → pairsUpTo fuel tag = pairs tag) ∧
    (∀ v, lookup tag key = .ok (some v) ↔
      ∃ body, FirstPair tag key body ∧ Literal.unquote (enclose body) = .ok v) ∧
    (∀ e, lookup tag key = .error e ↔
      e = .overflow ∧ ∃ body, FirstPair tag key body ∧ Literal.Overflows body) ∧
    (lookup tag key = .ok none ↔ ∀ body, FirstPair tag key body →
      (∀ v, Literal.unquote (enclose body) ≠ .ok v) ∧ ¬ Literal.Overflows body) ∧
    (∀ (before : List Text) (rest : Text), (∀ b ∈ before, ∃ name body, Pair b name body) →
      Malformed rest → tag = before.flatten ++ rest →
      lookup tag key = lookup before.flatten key) ∧
    (∀ (before : List Text) (w body rest : Text),
      (∀ b ∈ before, ∃ name body, Pair b name body ∧ name ≠ key) → Pair w key body →
      tag = before.flatten ++ w ++ rest →
      ∀ rest', lookup tag key = lookup (before.flatten ++ w ++ rest') key) ∧
    (key = [] ∨ .scalar ' ' ∈ key ∨ .scalar ':' ∈ key ∨ .scalar '"' ∈ key →
      lookup tag key = .ok none) := by
  refine ⟨fun fuel h => pairsUpTo_eq_pairs h, fun v => lookup_eq_some_iff,
    fun e => lookup_eq_error_iff, lookup_eq_none_iff, ?_, ?_, ?_⟩
  · rintro before rest hbefore hrest rfl
    apply lookup_congr
    rw [pairs_append_malformed hbefore hrest]
  · rintro before w body rest hbefore hw rfl rest'
    exact lookup_first_pair_append hbefore hw rest rest'
  · intro hkey
    apply lookup_of_no_pair
    intro body hp
    obtain ⟨hne, hchars⟩ := hp.isName
    rcases hkey with rfl | h | h | h
    · exact hne rfl
    · exact absurd (hchars _ h).1 (by decide)
    · exact (hchars _ h).2.1 rfl
    · exact (hchars _ h).2.2.1 rfl

/-- The name occurs again behind a malformed pair, which hides it. -/
theorem lookup_json_twice :
    let tag : Text := "xml:\"1\"  json:\"x\\ty\" :2 json:\"z\""
    lookup tag "json" = .ok (some "x\ty") ∧
      lookup tag "json" = lookup "xml:\"1\"  json:\"x\\ty\"" "json" := by
  intro tag
  obtain ⟨-, hsome, -, -, -, hrest, -⟩ := lookup_reads_first_pair tag "json"
  have hxml : ∀ b ∈ [("xml:\"1\"" : Text)], ∃ name body, Pair b name body ∧ name ≠ "json" := by
    simp only [List.mem_singleton, forall_eq]
    exact ⟨"xml", "1", ⟨by decide, .char (by decide) (by decide) .nil, 0, rfl⟩, by decide⟩
  have hbody : Body "x\\ty" :=
    .char (by decide) (by decide) (.escape (.char (by decide) (by decide) .nil))
  have hjson : Pair "  json:\"x\\ty\"" "json" "x\\ty" := ⟨by decide, hbody, 2, rfl⟩
  constructor
  · exact (hsome "x\ty").mpr ⟨_, ⟨_, _, " :2 json:\"z\"", hxml, hjson, rfl⟩, by decide⟩
  · exact hrest _ _ _ " :2 json:\"z\"" hxml hjson rfl []

end StructCli.Go.StructTag
