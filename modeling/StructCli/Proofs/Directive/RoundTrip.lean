import StructCli.Proofs.Directive.Reading
import StructCli.Proofs.Directive.Written

/-! # The round trip of a tag

Directives of different kinds are written in any order, with semicolons between them and white
space around them and after their markers. Reading the tag gives the directives back, and what is
read from any tag at all is well formed.
-/

namespace StructCli

open Text

inductive Directive where
  | arg (a : ArgSpec)
  | default (d : Text)
  | flag (f : FlagSpec)
  deriving DecidableEq, Repr

namespace Directive

variable {d : Directive}

def kind : Directive → DirectiveKind
  | arg _ => .arg
  | default _ => .default
  | flag _ => .flag

def render : Directive → Text
  | arg a => a.render
  | default d => DirectiveKind.default.marker ++ d
  | flag f => f.render

def value (d : Directive) : Text := d.render.drop d.kind.marker.length

def WellFormed : Directive → Prop
  | arg a => a.WellFormed
  | default d => d ≠ [] ∧ d.Trimmed ∧ .scalar ';' ∉ d
  | flag f => f.WellFormed

theorem value_eq {v : Text} (h : d.render = d.kind.marker ++ v) : d.value = v := by
  rw [value, h, List.drop_left]

theorem describes_value_arg {a : ArgSpec} (h : a.WellFormed) :
    (arg a).value.Solid ∧ ArgSpec.Describes (arg a).value a := by
  obtain ⟨v, hr, hs, hd⟩ := h.exists_value
  rw [value_eq (d := arg a) hr]
  exact ⟨hs, hd⟩

theorem value_default (d : Text) : (default d).value = d := value_eq rfl

theorem describes_value_flag {f : FlagSpec} (h : f.WellFormed) :
    (flag f).value.Solid ∧ FlagSpec.Describes (flag f).value f := by
  obtain ⟨v, hr, hs, hd⟩ := h.exists_value
  rw [value_eq (d := flag f) hr]
  exact ⟨hs, hd⟩

theorem WellFormed.value_trimmed (h : d.WellFormed) :
    d.value ≠ [] ∧ d.value.Trimmed ∧ .scalar ';' ∉ d.value := by
  cases d with
  | arg a =>
    obtain ⟨hs, hd⟩ := describes_value_arg h
    exact ⟨hd.ne_nil, hs.trimmed, hs.semicolon_not_mem⟩
  | default d => rwa [value_default]
  | flag f =>
    obtain ⟨hs, hd⟩ := describes_value_flag h
    exact ⟨hd.ne_nil, hs.trimmed, hs.semicolon_not_mem⟩

def valueFor? (k : DirectiveKind) (d : Directive) : Option Text :=
  if d.kind = k then some d.value else none

end Directive

/-- A directive in a tag, with the white space around it and after its marker. -/
structure Placement where
  directive : Directive
  lead : Text := []
  gap : Text := []
  trail : Text := []
  blank : Blank (lead ++ gap ++ trail) := by decide

namespace Placement

variable {k : DirectiveKind} {p : Placement}

def render (p : Placement) : Text :=
  p.lead ++ (p.directive.kind.marker ++ p.gap ++ p.directive.value) ++ p.trail

theorem blank_parts (p : Placement) : Blank p.lead ∧ Blank p.gap ∧ Blank p.trail := by
  have h := p.blank
  simp only [Blank, List.mem_append] at h
  exact ⟨fun c hc => h c (.inl (.inl hc)), fun c hc => h c (.inl (.inr hc)),
    fun c hc => h c (.inr hc)⟩

theorem strip_render (h : p.directive.WellFormed) :
    p.render.strip = p.directive.kind.marker ++ p.gap ++ p.directive.value := by
  obtain ⟨hl, -, ht⟩ := p.blank_parts
  obtain ⟨hn, hv, -⟩ := h.value_trimmed
  refine strip_eq hl ?_ ht
  have hm : Trimmed p.directive.kind.marker ∧ p.directive.kind.marker ≠ [] := by
    cases p.directive.kind <;> decide
  exact hm.1.append hm.2 hv hn

theorem valueIn?_of_strip {c : Text} (h : p.directive.WellFormed) (hc : c.strip = p.render.strip) :
    k.valueIn? c = p.directive.valueFor? k := by
  rw [strip_render h, List.append_assoc] at hc
  obtain ⟨-, hg, -⟩ := p.blank_parts
  have hv : (p.gap ++ p.directive.value).strip = p.directive.value := by
    rw [strip_append_left hg, strip_of_trimmed h.value_trimmed.2.1]
  have hk := DirectiveKind.valueIn?_eq_some_iff.mpr ⟨_, hc, hv⟩
  rw [Directive.valueFor?]
  split
  · next he => rw [← he, hk]
  · next he =>
    cases ho : k.valueIn? c with
    | none => rfl
    | some w => exact absurd (DirectiveKind.eq_of_valueIn? hk ho) he

theorem semicolon_not_mem_blank {t : Text} (h : Blank t) : .scalar ';' ∉ t :=
  fun hc => absurd (h _ hc) (by decide)

theorem semicolon_not_mem_render (h : p.directive.WellFormed) : .scalar ';' ∉ p.render := by
  obtain ⟨hl, hg, ht⟩ := p.blank_parts
  have hm : .scalar ';' ∉ p.directive.kind.marker := by cases p.directive.kind <;> decide
  simp [render, semicolon_not_mem_blank hl, semicolon_not_mem_blank hg,
    semicolon_not_mem_blank ht, hm, h.value_trimmed.2.2]

/-- The tag in which directives are placed, with white space at both of its ends. -/
def tagOf (opening closing : Text) (ps : List Placement) : Text :=
  opening ++ joinWith ";" (ps.map render) ++ closing

theorem valueIn?_of_blank {t : Text} (h : Blank t) : k.valueIn? t = none := by
  cases hv : k.valueIn? t with
  | none => rfl
  | some v =>
    obtain ⟨r, hr, -⟩ := DirectiveKind.valueIn?_eq_some_iff.mp hv
    rw [strip_of_blank h] at hr
    cases k <;> cases hr

theorem occurrences_tagOf {opening closing : Text} {ps : List Placement} (ho : Blank opening)
    (hc : Blank closing) (h : ∀ p ∈ ps, p.directive.WellFormed) :
    Directives.occurrences k (some (tagOf opening closing ps)) =
      (ps.map directive).filterMap (Directive.valueFor? k) := by
  simp only [Directives.occurrences, Directives.components]
  induction ps generalizing opening with
  | nil =>
    have hb := ho.append hc
    simp [tagOf, splitAt_of_not_mem (semicolon_not_mem_blank hb), valueIn?_of_blank hb]
  | cons p ps ih =>
    have hp := h p List.mem_cons_self
    have hsemi := semicolon_not_mem_render hp
    cases ps with
    | nil =>
      have hs : (opening ++ p.render ++ closing).strip = p.render.strip := by
        rw [strip_append_right _ hc, strip_append_left ho]
      have hn : .scalar ';' ∉ opening ++ p.render ++ closing := by
        simp [semicolon_not_mem_blank ho, semicolon_not_mem_blank hc, hsemi]
      simp only [tagOf, List.map_cons, List.map_nil, joinWith_singleton, splitAt_of_not_mem hn,
        List.filterMap_cons, List.filterMap_nil, valueIn?_of_strip hp hs]
    | cons q r =>
      have hs : (opening ++ p.render).strip = p.render.strip := strip_append_left ho _
      have hn : .scalar ';' ∉ opening ++ p.render := by
        simp [semicolon_not_mem_blank ho, hsemi]
      have hsplit : tagOf opening closing (p :: q :: r) =
          (opening ++ p.render) ++ .scalar ';' :: tagOf [] closing (q :: r) := by
        simp [tagOf, ofString]
      have hnil : Text.Blank [] := fun _ h => absurd h List.not_mem_nil
      have hr := ih hnil fun p' h' => h p' (List.mem_cons_of_mem _ h')
      rw [hsplit, splitAt_append, splitAt_of_not_mem hn, List.singleton_append,
        List.filterMap_cons, valueIn?_of_strip hp hs, hr, List.map_cons (l := q :: r),
        List.filterMap_cons (a := p.directive)]

end Placement

/-- The directives of a tag, at most one of each kind. -/
structure Binding where
  arg : Option ArgSpec := none
  default : Option Text := none
  flag : Option FlagSpec := none

namespace Binding

def directives (b : Binding) : List Directive :=
  (b.arg.map .arg).toList ++ (b.default.map .default).toList ++ (b.flag.map .flag).toList

def get? (b : Binding) : DirectiveKind → Option Directive
  | .arg => b.arg.map .arg
  | .default => b.default.map .default
  | .flag => b.flag.map .flag

variable {b : Binding} {ps : List Placement} {opening closing : Text}

theorem filterMap_valueFor? (b : Binding) (k : DirectiveKind) :
    b.directives.filterMap (Directive.valueFor? k) = ((b.get? k).map Directive.value).toList := by
  obtain ⟨a, d, f⟩ := b
  cases k <;> cases a <;> cases d <;> cases f <;> rfl

/-- The order of the directives and the white space around them do not show. -/
theorem occurrences_tagOf (hb : ∀ d ∈ b.directives, d.WellFormed)
    (hp : (ps.map Placement.directive).Perm b.directives) (ho : Blank opening)
    (hc : Blank closing) (k : DirectiveKind) :
    Directives.occurrences k (some (Placement.tagOf opening closing ps)) =
      ((b.get? k).map Directive.value).toList := by
  rw [Placement.occurrences_tagOf ho hc fun p h =>
    hb _ (hp.mem_iff.mp (List.mem_map_of_mem h))]
  have := hp.filterMap (Directive.valueFor? k)
  rw [filterMap_valueFor?] at this
  cases hg : b.get? k with
  | none => rw [hg] at this; exact this.eq_nil
  | some d => rw [hg] at this; exact this.eq_singleton

variable {α : Type} {k : DirectiveKind} {ofValue : Text → Except DirectiveError α}

theorem readDirective_tagOf (hb : ∀ d ∈ b.directives, d.WellFormed)
    (hp : (ps.map Placement.directive).Perm b.directives) (ho : Blank opening)
    (hc : Blank closing) {o : Option α} (hn : b.get? k = none → o = none)
    (hs : ∀ d, b.get? k = some d → d.value ≠ [] ∧ ∃ a, o = some a ∧ ofValue d.value = .ok a) :
    readDirective k ofValue (some (Placement.tagOf opening closing ps)) = pure o := by
  have hocc := occurrences_tagOf hb hp ho hc k
  cases hg : b.get? k with
  | none =>
    rw [hn hg]
    apply readDirective_of_absent
    rw [hocc, hg]
    rfl
  | some d =>
    obtain ⟨hv, a, rfl, ha⟩ := hs d hg
    have hget : (Directives.ofTag (some (Placement.tagOf opening closing ps))).get k = d.value := by
      rw [Directives.get_ofTag, hocc, hg]; rfl
    exact readDirective_of_ok (by rwa [hget]) (by rwa [hget])

theorem argOfTag_tagOf (hb : ∀ d ∈ b.directives, d.WellFormed)
    (hp : (ps.map Placement.directive).Perm b.directives) (ho : Blank opening)
    (hc : Blank closing) :
    ArgSpec.ofTag (some (Placement.tagOf opening closing ps)) = pure b.arg := by
  refine readDirective_tagOf hb hp ho hc (fun h => by simpa [get?] using h) fun d hd => ?_
  obtain ⟨a, ha, rfl⟩ := Option.map_eq_some_iff.mp hd
  have hw : a.WellFormed := hb (.arg a) (by simp [directives, ha])
  obtain ⟨hs, hd⟩ := Directive.describes_value_arg hw
  exact ⟨hd.ne_nil, a, ha,
    ArgSpec.ofValue_eq_ok_iff.mpr (by rwa [strip_of_trimmed hs.trimmed])⟩

theorem flagOfTag_tagOf (hb : ∀ d ∈ b.directives, d.WellFormed)
    (hp : (ps.map Placement.directive).Perm b.directives) (ho : Blank opening)
    (hc : Blank closing) :
    FlagSpec.ofTag (some (Placement.tagOf opening closing ps)) = pure b.flag := by
  refine readDirective_tagOf hb hp ho hc (fun h => by simpa [get?] using h) fun d hd => ?_
  obtain ⟨f, hf, rfl⟩ := Option.map_eq_some_iff.mp hd
  have hw : f.WellFormed := hb (.flag f) (by simp [directives, hf])
  obtain ⟨hs, hd⟩ := Directive.describes_value_flag hw
  exact ⟨hd.ne_nil, f, hf,
    FlagSpec.ofValue_eq_ok_iff.mpr (by rwa [strip_of_trimmed hs.trimmed])⟩

theorem defaultOfTag_tagOf (hb : ∀ d ∈ b.directives, d.WellFormed)
    (hp : (ps.map Placement.directive).Perm b.directives) (ho : Blank opening)
    (hc : Blank closing) :
    defaultOfTag (some (Placement.tagOf opening closing ps)) = b.default := by
  have hget : (Directives.ofTag (some (Placement.tagOf opening closing ps))).default =
      ((b.get? .default).map Directive.value).getD [] := by
    have := Directives.get_ofTag (some (Placement.tagOf opening closing ps)) .default
    rw [occurrences_tagOf hb hp ho hc] at this
    apply this.trans
    cases b.get? .default <;> rfl
  simp only [defaultOfTag, hget]
  cases hd : b.default with
  | none => simp [get?, hd]
  | some d =>
    have hw : (Directive.default d).WellFormed := hb _ (by simp [directives, hd])
    simp [get?, hd, Directive.value_default, hw.1]

end Binding

/-- Directives that are placed in a tag are read back without a notice, and whatever is read from
a tag has the form of what can be placed there. -/
theorem read_tagOf :
    (∀ (b : Binding) (ps : List Placement) (opening closing : Text),
      (∀ d ∈ b.directives, d.WellFormed) →
      (ps.map Placement.directive).Perm b.directives → Blank opening → Blank closing →
      ArgSpec.ofTag (some (Placement.tagOf opening closing ps)) = pure b.arg ∧
      defaultOfTag (some (Placement.tagOf opening closing ps)) = b.default ∧
      FlagSpec.ofTag (some (Placement.tagOf opening closing ps)) = pure b.flag) ∧
    (∀ tag a, (ArgSpec.ofTag tag).outcome = .ok (some a) → a.WellFormed) ∧
    ∀ tag f, (FlagSpec.ofTag tag).outcome = .ok (some f) → f.WellFormed := by
  refine ⟨fun b ps opening closing hb hp ho hc => ⟨?_, ?_, ?_⟩, fun tag a h => ?_, fun tag f h => ?_⟩
  · exact Binding.argOfTag_tagOf hb hp ho hc
  · exact Binding.defaultOfTag_tagOf hb hp ho hc
  · exact Binding.flagOfTag_tagOf hb hp ho hc
  · exact (ArgSpec.ofValue_eq_ok_iff.mp (readDirective_outcome_eq_some h)).wellFormed
  · exact (FlagSpec.ofValue_eq_ok_iff.mp (readDirective_outcome_eq_some h)).wellFormed

/-- A default value that looks like other directives stands between a flag and a range. -/
theorem read_dry_run :
    let tag : Text := "\tflag: dry-run,n ;default:arg:7 flag:[x]; arg:[2:5]\n"
    ArgSpec.ofTag (some tag) = pure (some ⟨2, some 5⟩) ∧
    defaultOfTag (some tag) = some (ofString "arg:7 flag:[x]") ∧
    FlagSpec.ofTag (some tag) = pure (some ⟨"dry-run", "n"⟩) := by
  have hsmall : ∀ n < 10, n < 10 ^ Numeral.digitLimit := fun n hn =>
    hn.trans_le (Nat.le_self_pow (by decide) 10)
  have ha : ArgSpec.WellFormed ⟨2, some 5⟩ :=
    ⟨by decide, hsmall 2 (by decide), fun _ hm => Option.some.inj hm ▸ hsmall 5 (by decide)⟩
  have hf : FlagSpec.WellFormed ⟨"dry-run", "n"⟩ :=
    ⟨FlagSpec.isLongName_iff.mp rfl, .inr ⟨.scalar 'n', rfl, rfl⟩⟩
  have hd : (Directive.default "arg:7 flag:[x]").WellFormed := by
    refine ⟨?_, ?_, ?_⟩ <;> decide
  exact read_tagOf.1
    { arg := some ⟨2, some 5⟩, default := some "arg:7 flag:[x]", flag := some ⟨"dry-run", "n"⟩ }
    [{ directive := .flag ⟨"dry-run", "n"⟩, gap := " ", trail := " " },
      { directive := .default "arg:7 flag:[x]" },
      { directive := .arg ⟨2, some 5⟩, lead := " " }]
    "\t" "\n"
    (by simpa [Binding.directives] using ⟨ha, hd, hf⟩) (by decide) (by decide) (by decide)

end StructCli
