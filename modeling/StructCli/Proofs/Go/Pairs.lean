import StructCli.Go.StructTag
import StructCli.Proofs.Go.Literal
import StructCli.Proofs.Text.Pieces

/-! # The pairs of a struct tag

A pair is made of spaces, a name, a colon and a quoted body. The scanner takes pairs from the front
of a tag for as long as there are any, and a name has the value of its first pair.
-/

namespace StructCli.Go.StructTag

/-- Characters other than the quote and the backslash, and backslashes with one character each. -/
inductive Body : Text → Prop where

  | nil : Body []

  | char {c : CodePoint} {t : Text} : c ≠ .scalar '"' → c ≠ .scalar '\\' → Body t → Body (c :: t)

  | escape {c : CodePoint} {t : Text} : Body t → Body (.scalar '\\' :: c :: t)

def Name (name : Text) : Prop := name ≠ [] ∧
  ∀ c ∈ name, 0x20 < c.value ∧ c ≠ .scalar ':' ∧ c ≠ .scalar '"' ∧ c.value ≠ 0x7F

instance : DecidablePred Name := fun _ => inferInstanceAs (Decidable (_ ∧ _))

/-- The text is a pair with the given name and body. -/
def Pair (w name body : Text) : Prop := Name name ∧ Body body ∧
  ∃ n, w = List.replicate n (.scalar ' ') ++ name ++ .scalar ':' :: enclose body

/-- The first pair named `key` has the given body: pairs with other names stand before it, and
anything may follow. -/
def FirstPair (tag key body : Text) : Prop := ∃ (before : List Text) (w rest : Text),
  (∀ b ∈ before, ∃ name body, Pair b name body ∧ name ≠ key) ∧ Pair w key body ∧
    tag = before.flatten ++ w ++ rest

variable {tag key name body t b w r rest : Text} {fuel : Nat}

theorem body?_complete (h : Body b) (r : Text) : body? (b ++ .scalar '"' :: r) = some (b, r) := by
  induction h with
  | nil => rfl
  | @char c t hq hb _ ih =>
    rw [List.cons_append, body?.eq_5 _ _ hq (fun h _ => hb h) (fun _ _ h _ => hb h), ih]
    rfl
  | escape _ ih =>
    rw [List.cons_append, List.cons_append, body?, ih]
    rfl

theorem body?_sound (h : body? t = some (b, r)) : Body b ∧ t = b ++ .scalar '"' :: r := by
  fun_induction body? t generalizing b with
  | case1 => cases h
  | case2 r' =>
    obtain ⟨rfl, rfl⟩ := Prod.mk.inj (Option.some.inj h)
    exact ⟨.nil, rfl⟩
  | case3 => cases h
  | case4 c t ih =>
    obtain ⟨⟨b', r'⟩, hb, he⟩ := Option.map_eq_some_iff.mp h
    obtain ⟨rfl, rfl⟩ := Prod.mk.inj he
    obtain ⟨hb', rfl⟩ := ih hb
    exact ⟨.escape hb', rfl⟩
  | case5 c t hq hb1 hb2 ih =>
    obtain ⟨⟨b', r'⟩, hb, he⟩ := Option.map_eq_some_iff.mp h
    obtain ⟨rfl, rfl⟩ := Prod.mk.inj he
    obtain ⟨hb', rfl⟩ := ih hb
    refine ⟨.char hq ?_ hb', rfl⟩
    rintro rfl
    cases b' with
    | nil => exact hb2 _ _ rfl rfl
    | cons d b' => exact hb2 _ _ rfl rfl

theorem body?_eq_some_iff : body? t = some (b, r) ↔ Body b ∧ t = b ++ .scalar '"' :: r := by
  constructor
  · exact body?_sound
  · rintro ⟨hb, rfl⟩
    exact body?_complete hb r

theorem isNameChar_iff {c : CodePoint} : isNameChar c = true ↔
    0x20 < c.value ∧ c ≠ .scalar ':' ∧ c ≠ .scalar '"' ∧ c.value ≠ 0x7F := by
  simp [isNameChar, and_assoc]

theorem name_iff : Name name ↔ name ≠ [] ∧ ∀ c ∈ name, isNameChar c = true := by
  simp only [Name, isNameChar_iff]

theorem Name.isSpace_head (h : Name name) (r : Text) :
    ∀ c ∈ (name ++ r).head?, decide (c = .scalar ' ') = false := by
  obtain ⟨c, name, rfl⟩ := List.exists_cons_of_ne_nil h.1
  have hc := (h.2 c List.mem_cons_self).1
  intro d hd
  obtain rfl := Option.some.inj hd
  apply decide_eq_false
  rintro rfl
  exact absurd hc (by decide)

theorem Pair.length_pos (h : Pair w name body) : 0 < w.length := by
  obtain ⟨-, -, n, rfl⟩ := h
  simp only [List.length_append, List.length_cons]
  omega

theorem pair?_complete (h : Pair w name body) (rest : Text) :
    pair? (w ++ rest) = some (name, body, rest) := by
  obtain ⟨hn, hb, n, rfl⟩ := h
  have hshape : List.replicate n (.scalar ' ') ++ name ++ .scalar ':' :: enclose body ++ rest =
      List.replicate n (.scalar ' ') ++
        (name ++ .scalar ':' :: .scalar '"' :: (body ++ .scalar '"' :: rest)) := by
    simp [enclose]
  have hspaces := Text.takeWhile_dropWhile_append (p := fun c : CodePoint => c = .scalar ' ')
    (l := List.replicate n (.scalar ' ')) (by simp +contextual)
    (hn.isSpace_head (.scalar ':' :: .scalar '"' :: (body ++ .scalar '"' :: rest)))
  have hname := Text.takeWhile_dropWhile_append (p := isNameChar) (l := name)
    (r := .scalar ':' :: .scalar '"' :: (body ++ .scalar '"' :: rest)) (name_iff.mp hn).2
    (by rintro c hc; obtain rfl := Option.some.inj hc; decide)
  obtain ⟨c, name, rfl⟩ := List.exists_cons_of_ne_nil hn.1
  simp only [pair?, hshape, hspaces.2, hname.1, hname.2, body?_complete hb, Option.map_some]

theorem exists_spaces (t : Text) : ∃ n, t = List.replicate n (.scalar ' ') ++
    t.dropWhile fun c : CodePoint => c = .scalar ' ' := by
  refine ⟨(t.takeWhile fun c : CodePoint => c = .scalar ' ').length, ?_⟩
  have hspaces : t.takeWhile (fun c : CodePoint => c = .scalar ' ') =
      List.replicate _ (.scalar ' ') :=
    List.eq_replicate_iff.mpr ⟨rfl, fun c hc => by simpa using List.mem_takeWhile_imp hc⟩
  rw [← hspaces, List.takeWhile_append_dropWhile]

theorem pair?_sound (h : pair? tag = some (name, body, rest)) :
    ∃ w, Pair w name body ∧ tag = w ++ rest := by
  obtain ⟨n, ht⟩ := exists_spaces tag
  simp only [pair?] at h
  generalize tag.dropWhile (fun c : CodePoint => c = .scalar ' ') = t at h ht
  subst ht
  split at h
  · cases h
  · next r hd hne =>
    obtain ⟨⟨b, r'⟩, hb, he⟩ := Option.map_eq_some_iff.mp h
    obtain ⟨rfl, hp⟩ := Prod.mk.inj he
    obtain ⟨rfl, rfl⟩ := Prod.mk.inj hp
    obtain ⟨hbody, rfl⟩ := body?_eq_some_iff.mp hb
    have hname : Name (t.takeWhile isNameChar) :=
      name_iff.mpr ⟨hne, fun c hc => List.mem_takeWhile_imp hc⟩
    refine ⟨_, ⟨hname, hbody, n, rfl⟩, ?_⟩
    conv_lhs => rw [← List.takeWhile_append_dropWhile (p := isNameChar) (l := t), hd]
    simp [enclose]
  · cases h

theorem pair?_eq_some_iff : pair? tag = some (name, body, rest) ↔
    ∃ w, Pair w name body ∧ tag = w ++ rest := by
  constructor
  · exact pair?_sound
  · rintro ⟨w, hp, rfl⟩
    exact pair?_complete hp rest

theorem pairsUpTo_eq {fuel' : Nat} (h : tag.length ≤ fuel) (h' : tag.length ≤ fuel') :
    pairsUpTo fuel tag = pairsUpTo fuel' tag := by
  induction fuel generalizing tag fuel' with
  | zero =>
    obtain rfl := List.length_eq_zero_iff.mp (Nat.le_zero.mp h)
    cases fuel' <;> rfl
  | succ fuel ih =>
    cases fuel' with
    | zero =>
      obtain rfl := List.length_eq_zero_iff.mp (Nat.le_zero.mp h')
      rfl
    | succ fuel' =>
      simp only [pairsUpTo]
      cases hp : pair? tag with
      | none => rfl
      | some p =>
        obtain ⟨name, body, rest⟩ := p
        obtain ⟨w, hw, rfl⟩ := pair?_eq_some_iff.mp hp
        have := hw.length_pos
        simp only [List.length_append] at h h'
        exact congrArg _ (ih (by omega) (by omega))

theorem pairsUpTo_eq_pairs (h : tag.length ≤ fuel) : pairsUpTo fuel tag = pairs tag :=
  pairsUpTo_eq h le_rfl

theorem pairs_eq_pairsUpTo_succ (tag : Text) : pairs tag = pairsUpTo (tag.length + 1) tag :=
  (pairsUpTo_eq_pairs (Nat.le_succ _)).symm

theorem pairs_append (h : Pair w name body) (rest : Text) :
    pairs (w ++ rest) = (name, body) :: pairs rest := by
  rw [pairs_eq_pairsUpTo_succ, pairsUpTo, pair?_complete h]
  exact congrArg _ (pairsUpTo_eq_pairs (by simp))

theorem pairs_of_none (h : pair? tag = none) : pairs tag = [] := by
  rw [pairs_eq_pairsUpTo_succ, pairsUpTo, h]

/-- A tag is a sequence of pairs, and a rest that no pair begins. -/
theorem pair_induction {motive : Text → Prop} (stop : ∀ rest, pair? rest = none → motive rest)
    (pair : ∀ w name body rest, Pair w name body → motive rest → motive (w ++ rest))
    (tag : Text) : motive tag := by
  induction hl : tag.length using Nat.strong_induction_on generalizing tag with
  | _ l ih =>
    subst hl
    cases hp : pair? tag with
    | none => exact stop tag hp
    | some p =>
      obtain ⟨name, body, rest⟩ := p
      obtain ⟨w, hw, rfl⟩ := pair?_eq_some_iff.mp hp
      have := hw.length_pos
      exact pair w name body rest hw (ih rest.length (by simp; omega) rest rfl)

theorem lookup_pairs_append {before : List Text}
    (h : ∀ b ∈ before, ∃ name body, Pair b name body ∧ name ≠ key) (rest : Text) :
    (pairs (before.flatten ++ rest)).lookup key = (pairs rest).lookup key := by
  induction before with
  | nil => rfl
  | cons b before ih =>
    obtain ⟨name, body, hb, hne⟩ := h b List.mem_cons_self
    rw [List.flatten_cons, List.append_assoc, pairs_append hb, List.lookup_cons,
      beq_false_of_ne (Ne.symm hne), ih fun b hb => h b (List.mem_cons_of_mem _ hb)]

theorem lookup_pairs_eq_some_iff : (pairs tag).lookup key = some body ↔ FirstPair tag key body := by
  constructor
  · induction tag using pair_induction with
    | stop rest h =>
      rw [pairs_of_none h]
      intro h
      cases h
    | pair w name b rest hw ih =>
      rw [pairs_append hw, List.lookup_cons]
      by_cases hk : key = name
      · subst hk
        simp only [beq_self_eq_true, Option.some.injEq]
        rintro rfl
        exact ⟨[], w, rest, by simp, hw, rfl⟩
      · rw [beq_false_of_ne hk]
        intro h
        obtain ⟨before, w', rest', hbefore, hw', rfl⟩ := ih h
        refine ⟨w :: before, w', rest', ?_, hw', by simp⟩
        simp only [List.mem_cons, forall_eq_or_imp]
        exact ⟨⟨name, b, hw, Ne.symm hk⟩, hbefore⟩
  · rintro ⟨before, w, rest, hbefore, hw, rfl⟩
    rw [List.append_assoc, lookup_pairs_append hbefore, pairs_append hw]
    simp

end StructCli.Go.StructTag
