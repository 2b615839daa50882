import Mathlib.Algebra.Group.Nat.Defs
import Mathlib.Data.List.Basic
import StructCli.Go.Literal

/-! # Escapes

After a backslash stands a letter, a run of hexadecimal digits with its marker, or three octal
digits. The reader finds an escape exactly where a text begins with one.
-/

namespace StructCli.Go.Literal

def letters : List (Char × Nat) :=
  [('a', 7), ('b', 8), ('f', 12), ('n', 10), ('r', 13), ('t', 9), ('v', 11), ('\\', 92), ('"', 34)]

def hexNumberOf? (ds : Text) : Option Nat :=
  ds.foldlM (fun n c => (hexValue? c).map (16 * n + ·)) 0

/-- What may stand after a backslash, and the number that it denotes. -/
inductive Escape : Text → Nat → Prop where

  | letter {c : Char} {n : Nat} : (c, n) ∈ letters → Escape [.scalar c] n

  | hex {c : Char} {ds : Text} {n : Nat} : (c, ds.length) ∈ [('x', 2), ('u', 4), ('U', 8)] →
      hexNumberOf? ds = some n → Escape (.scalar c :: ds) n

  | octal {a b c : CodePoint} {x y z : Nat} : octalValue? a = some x → octalValue? b = some y →
      octalValue? c = some z → x ≤ 3 → Escape [a, b, c] (64 * x + 8 * y + z)

variable {t : Text} {c : CodePoint} {n k w acc : Nat}

theorem simpleEscape?_of_mem_letters : ∀ p ∈ letters, simpleEscape? (.scalar p.1) = some p.2 := by
  decide

theorem simpleEscape?_eq_some_iff :
    simpleEscape? c = some n ↔ ∃ a, c = .scalar a ∧ (a, n) ∈ letters := by
  constructor
  · intro h
    unfold simpleEscape? at h
    split at h <;> simp_all [letters]
  · rintro ⟨a, rfl, h⟩
    exact simpleEscape?_of_mem_letters _ h

theorem hexNumber?_eq_some_iff : hexNumber? acc w t = some n ↔ ∃ ds r, t = ds ++ r ∧
    ds.length = w ∧ ds.foldlM (fun n c => (hexValue? c).map (16 * n + ·)) acc = some n := by
  induction w generalizing acc t with
  | zero =>
    constructor
    · exact fun h => ⟨[], t, rfl, rfl, h⟩
    · rintro ⟨ds, r, rfl, hl, hf⟩
      obtain rfl := List.length_eq_zero_iff.mp hl
      exact hf
  | succ w ih =>
    cases t with
    | nil =>
      simp only [hexNumber?, reduceCtorEq, false_iff]
      rintro ⟨ds, r, h, hl, -⟩
      simp [(List.append_eq_nil_iff.mp h.symm).1] at hl
    | cons c t =>
      simp only [hexNumber?, Option.bind_eq_bind, Option.bind_eq_some_iff, ih]
      constructor
      · rintro ⟨d, hd, ds, r, rfl, rfl, hf⟩
        exact ⟨c :: ds, r, rfl, rfl, by simpa [hd] using hf⟩
      · rintro ⟨ds, r, h, hl, hf⟩
        obtain ⟨c', ds, rfl⟩ := List.exists_cons_of_length_eq_add_one hl
        obtain ⟨rfl, rfl⟩ := List.cons.inj h
        rw [List.foldlM_cons, Option.bind_eq_bind, Option.bind_eq_some_iff] at hf
        obtain ⟨_, hd, hf⟩ := hf
        obtain ⟨m, hm, rfl⟩ := Option.map_eq_some_iff.mp hd
        exact ⟨m, hm, ds, r, rfl, Nat.succ.inj hl, hf⟩

theorem hexValue?_lt (h : hexValue? c = some n) : n < 16 := by
  cases c with
  | surrogate => simp [hexValue?] at h
  | scalar c =>
    simp only [hexValue?, Char.le_def, UInt32.le_iff_toNat_le] at h
    have h9 : ('9' : Char).val.toNat = 57 := rfl
    have hf : ('f' : Char).val.toNat = 102 := rfl
    have hF : ('F' : Char).val.toNat = 70 := rfl
    have hc : c.toNat = c.val.toNat := rfl
    split at h
    · cases h; omega
    · split at h
      · cases h; omega
      · split at h <;> cases h; omega

theorem hexNumber?_lt (h : hexNumber? acc w t = some n) : n < 16 ^ w * (acc + 1) := by
  induction w generalizing acc t with
  | zero => simp [hexNumber?] at h; omega
  | succ w ih =>
    cases t with
    | nil => simp [hexNumber?] at h
    | cons c t =>
      simp only [hexNumber?, Option.bind_eq_bind, Option.bind_eq_some_iff] at h
      obtain ⟨d, hd, hn⟩ := h
      have hd := hexValue?_lt hd
      calc n < 16 ^ w * (16 * acc + d + 1) := ih hn
        _ ≤ 16 ^ w * (16 * (acc + 1)) := Nat.mul_le_mul_left _ (by omega)
        _ = 16 ^ (w + 1) * (acc + 1) := by rw [Nat.pow_succ, Nat.mul_assoc]

theorem octalNumber?_eq_some_iff : octalNumber? t = some n ↔ ∃ a b c r x y z,
    t = a :: b :: c :: r ∧ octalValue? a = some x ∧ octalValue? b = some y ∧
      octalValue? c = some z ∧ x ≤ 3 ∧ 64 * x + 8 * y + z = n := by
  constructor
  · intro h
    unfold octalNumber? at h
    split at h
    · next a b c r =>
      obtain ⟨x, hx, h⟩ := Option.bind_eq_some_iff.mp h
      obtain ⟨u, hu, h⟩ := Option.bind_eq_some_iff.mp h
      obtain ⟨y, hy, h⟩ := Option.bind_eq_some_iff.mp h
      obtain ⟨z, hz, h⟩ := Option.bind_eq_some_iff.mp h
      have h3 : x ≤ 3 := by
        by_contra hc
        rw [guard, if_neg hc] at hu
        cases hu
      exact ⟨a, b, c, r, x, y, z, rfl, hx, hy, hz, h3, Option.some.inj h⟩
    · cases h
  · rintro ⟨a, b, c, r, x, y, z, rfl, hx, hy, hz, h3, rfl⟩
    refine Option.bind_eq_some_iff.mpr ⟨x, hx, Option.bind_eq_some_iff.mpr ⟨(), if_pos h3, ?_⟩⟩
    exact Option.bind_eq_some_iff.mpr ⟨y, hy, Option.bind_eq_some_iff.mpr ⟨z, hz, rfl⟩⟩

theorem octalValue?_eq_some_iff :
    octalValue? c = some n ↔ 48 ≤ c.value ∧ c.value ≤ 55 ∧ c.value - 48 = n := by
  unfold octalValue?
  split
  · next h => simp [h]
  · next h =>
    simp only [reduceCtorEq, false_iff]
    omega

theorem octalValue?_ne (h : octalValue? c = some n) : simpleEscape? c = none ∧
    c ≠ .scalar 'x' ∧ c ≠ .scalar 'u' ∧ c ≠ .scalar 'U' := by
  refine ⟨?_, ?_, ?_, ?_⟩
  · cases hs : simpleEscape? c with
    | none => rfl
    | some m =>
      obtain ⟨a, rfl, ha⟩ := simpleEscape?_eq_some_iff.mp hs
      have hnone : ∀ p ∈ letters, octalValue? (.scalar p.1) = none := by decide
      rw [hnone _ ha] at h
      cases h
  all_goals
    rintro rfl
    cases h

theorem escape_of_hexNumber? {a : Char} (ha : (a, w) ∈ [('x', 2), ('u', 4), ('U', 8)])
    (h : (hexNumber? 0 w t).map (·, w + 1) = some (n, k)) :
    ∃ e r, .scalar a :: t = e ++ r ∧ e.length = k ∧ Escape e n := by
  obtain ⟨m, hm, he⟩ := Option.map_eq_some_iff.mp h
  obtain ⟨rfl, rfl⟩ := Prod.mk.inj he
  obtain ⟨ds, r, rfl, rfl, hd⟩ := hexNumber?_eq_some_iff.mp hm
  exact ⟨.scalar a :: ds, r, rfl, rfl, .hex ha hd⟩

theorem escape?_sound (h : escape? t = some (n, k)) :
    ∃ e r, t = e ++ r ∧ e.length = k ∧ Escape e n := by
  cases t with
  | nil => cases h
  | cons c t =>
    simp only [escape?] at h
    cases hs : simpleEscape? c with
    | some m =>
      simp only [hs, Option.some.injEq, Prod.mk.injEq] at h
      obtain ⟨rfl, rfl⟩ := h
      obtain ⟨a, rfl, ha⟩ := simpleEscape?_eq_some_iff.mp hs
      exact ⟨[_], t, rfl, rfl, .letter ha⟩
    | none =>
      simp only [hs] at h
      split at h
      · next hc => exact hc ▸ escape_of_hexNumber? (w := 2) (by decide) h
      · split at h
        · next hc => exact hc ▸ escape_of_hexNumber? (w := 4) (by decide) h
        · split at h
          · next hc => exact hc ▸ escape_of_hexNumber? (w := 8) (by decide) h
          · obtain ⟨m, hm, he⟩ := Option.map_eq_some_iff.mp h
            obtain ⟨rfl, rfl⟩ := Prod.mk.inj he
            obtain ⟨a, b, d, r, x, y, z, ht, hx, hy, hz, h3, rfl⟩ :=
              octalNumber?_eq_some_iff.mp hm
            exact ⟨[a, b, d], r, ht, rfl, .octal hx hy hz h3⟩

theorem escape?_complete {e : Text} (h : Escape e n) (r : Text) :
    escape? (e ++ r) = some (n, e.length) := by
  cases h with
  | letter hl =>
    have := simpleEscape?_eq_some_iff.mpr ⟨_, rfl, hl⟩
    simp [escape?, this]
  | @hex c ds _ hw hd =>
    have hn : hexNumber? 0 ds.length (ds ++ r) = some n :=
      hexNumber?_eq_some_iff.mpr ⟨ds, r, rfl, rfl, hd⟩
    simp only [List.mem_cons, Prod.mk.injEq, List.not_mem_nil, or_false] at hw
    rcases hw with ⟨rfl, hl⟩ | ⟨rfl, hl⟩ | ⟨rfl, hl⟩ <;>
      simp [escape?, simpleEscape?, hl ▸ hn, hl]
  | @octal a b c x y z hx hy hz h3 =>
    obtain ⟨hs, hx', hu, hU⟩ := octalValue?_ne hx
    have hn := octalNumber?_eq_some_iff.mpr ⟨a, b, c, r, x, y, z, rfl, hx, hy, hz, h3, rfl⟩
    simp [escape?, hs, hx', hu, hU, hn]

theorem escape?_eq_some_iff :
    escape? t = some (n, k) ↔ ∃ e r, t = e ++ r ∧ e.length = k ∧ Escape e n := by
  constructor
  · exact escape?_sound
  · rintro ⟨e, r, rfl, rfl, he⟩
    exact escape?_complete he r

def Plain (c : CodePoint) : Prop :=
  c ≠ .scalar '\\' ∧ c ≠ .scalar '"' ∧ c ≠ .scalar '\n'

instance : DecidablePred Plain := fun _ => inferInstanceAs (Decidable (_ ∧ _ ∧ _))

theorem shape_of_mem_letters :
    ∀ p ∈ letters, p.1 = '"' ∨ p.1 = '\\' ∨ Plain (.scalar p.1) := by
  decide

theorem plain_of_hexValue? (h : hexValue? c = some n) : Plain c := by
  have hs := Option.isSome_of_eq_some h
  refine ⟨?_, ?_, ?_⟩ <;> rintro rfl <;> exact absurd hs (by decide)

theorem plain_of_octalValue? (h : octalValue? c = some n) : Plain c := by
  have hs := Option.isSome_of_eq_some h
  refine ⟨?_, ?_, ?_⟩ <;> rintro rfl <;> exact absurd hs (by decide)

theorem plain_of_hexFold {ds : Text}
    (h : ds.foldlM (fun n c => (hexValue? c).map (16 * n + ·)) acc = some n) :
    ∀ c ∈ ds, Plain c := by
  induction ds generalizing acc with
  | nil => exact fun _ h => absurd h List.not_mem_nil
  | cons c ds ih =>
    rw [List.foldlM_cons, Option.bind_eq_bind, Option.bind_eq_some_iff] at h
    obtain ⟨m, hm, hf⟩ := h
    obtain ⟨d, hd, -⟩ := Option.map_eq_some_iff.mp hm
    intro c' hc
    rcases List.mem_cons.mp hc with rfl | hc
    · exact plain_of_hexValue? hd
    · exact ih hf c' hc

theorem Escape.shape {e : Text} (h : Escape e n) :
    e = [.scalar '"'] ∨ e = [.scalar '\\'] ∨ ∀ c ∈ e, Plain c := by
  cases h with
  | letter hl =>
    rcases shape_of_mem_letters _ hl with hq | hb | hp
    · exact .inl (congrArg (fun c => [CodePoint.scalar c]) hq)
    · exact .inr (.inl (congrArg (fun c => [CodePoint.scalar c]) hb))
    · exact .inr (.inr fun c hc => List.mem_singleton.mp hc ▸ hp)
  | hex hw hd =>
    have hmarker : ∀ p ∈ [('x', 2), ('u', 4), ('U', 8)], Plain (.scalar p.1) := by decide
    refine .inr (.inr fun c hc => ?_)
    rcases List.mem_cons.mp hc with rfl | hc
    · exact hmarker _ hw
    · exact plain_of_hexFold hd c hc
  | octal ha hb hc =>
    refine .inr (.inr fun c' h => ?_)
    simp only [List.mem_cons, List.not_mem_nil, or_false] at h
    rcases h with rfl | rfl | rfl
    · exact plain_of_octalValue? ha
    · exact plain_of_octalValue? hb
    · exact plain_of_octalValue? hc

theorem Escape.ne_nil {e : Text} (h : Escape e n) : e ≠ [] := by
  cases h <;> simp

theorem hexNumberOf?_lt {ds : Text} (h : hexNumberOf? ds = some n) : n < 16 ^ ds.length := by
  have := hexNumber?_lt (hexNumber?_eq_some_iff.mpr ⟨ds, [], (List.append_nil ds).symm, rfl, h⟩)
  simpa using this

theorem Escape.lt_or_long {e : Text} (h : Escape e n) : n < 0x80000000 ∨
    ∃ ds, e = .scalar 'U' :: ds ∧ ds.length = 8 ∧ hexNumberOf? ds = some n := by
  cases h with
  | letter hl =>
    simp only [letters, List.mem_cons, Prod.mk.injEq, List.not_mem_nil, or_false] at hl
    omega
  | @hex c ds _ hw hd =>
    have hlt := hexNumberOf?_lt hd
    simp only [List.mem_cons, Prod.mk.injEq, List.not_mem_nil, or_false] at hw
    rcases hw with ⟨-, hl⟩ | ⟨-, hl⟩ | ⟨rfl, hl⟩
    · rw [hl] at hlt; omega
    · rw [hl] at hlt; omega
    · exact .inr ⟨ds, rfl, hl, hd⟩
  | octal ha hb hc h3 =>
    have hb := octalValue?_eq_some_iff.mp hb
    have hc := octalValue?_eq_some_iff.mp hc
    omega

end StructCli.Go.Literal
