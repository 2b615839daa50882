import StructCli.Directive.Tag
import StructCli.Proofs.Text.Pieces
import StructCli.Proofs.Text.Strip

/-! # Occurrences of a directive

The values that the components of a tag give to one kind of directive. A tag has the last of
them, and a directive that does not occur is read as absent.
-/

namespace StructCli

namespace DirectiveKind

variable {k k' : DirectiveKind} {c v : Text}

theorem marker_append_inj {r r' : Text} (h : k.marker ++ r = k'.marker ++ r') :
    k = k' ∧ r = r' := by
  cases k <;> cases k' <;> simp_all [marker, label, Text.ofString]

theorem valueIn?_eq_some_iff :
    k.valueIn? c = some v ↔ ∃ r, c.strip = k.marker ++ r ∧ r.strip = v := by
  simp only [valueIn?, Option.map_eq_some_iff, Text.dropPrefix?_eq_some_iff]

theorem eq_of_valueIn? {w : Text} (h : k.valueIn? c = some v) (h' : k'.valueIn? c = some w) :
    k = k' := by
  obtain ⟨r, hr, -⟩ := valueIn?_eq_some_iff.mp h
  obtain ⟨s, hs, -⟩ := valueIn?_eq_some_iff.mp h'
  exact (marker_append_inj (hr.symm.trans hs)).1

theorem valueIn?_infix (h : k.valueIn? c = some v) : v <:+: c := by
  obtain ⟨r, hr, rfl⟩ := valueIn?_eq_some_iff.mp h
  have hs : r <:+: c.strip := hr ▸ (List.suffix_append _ _).isInfix
  exact (Text.strip_infix r).trans (hs.trans (Text.strip_infix c))

theorem trimmed_of_valueIn? (h : k.valueIn? c = some v) : v.Trimmed := by
  obtain ⟨r, -, rfl⟩ := valueIn?_eq_some_iff.mp h
  exact Text.trimmed_strip r

end DirectiveKind

namespace Directives

variable {k k' : DirectiveKind} {tag : Option Text} {v : Text}

theorem get_set (d : Directives) (v : Text) (k k' : DirectiveKind) :
    (d.set v k).get k' = if k = k' then v else d.get k' := by
  cases k <;> cases k' <;> rfl

theorem component?_eq_some_iff {c : Text} :
    component? c = some (k, v) ↔ k.valueIn? c = some v := by
  constructor
  · intro h
    obtain ⟨k', -, hk⟩ := List.exists_of_findSome?_eq_some h
    obtain ⟨w, hw, he⟩ := Option.map_eq_some_iff.mp hk
    obtain ⟨rfl, rfl⟩ := Prod.mk.injEq .. ▸ he
    exact hw
  · intro h
    cases hc : component? c with
    | none =>
      have := List.findSome?_eq_none_iff.mp hc k (by cases k <;> simp [DirectiveKind.all])
      simp [h] at this
    | some p =>
      obtain ⟨k', -, hk⟩ := List.exists_of_findSome?_eq_some hc
      obtain ⟨w, hw, rfl⟩ := Option.map_eq_some_iff.mp hk
      obtain rfl := DirectiveKind.eq_of_valueIn? h hw
      rw [Option.some.inj (h.symm.trans hw)]

theorem get_addComponent (d : Directives) (c : Text) (k : DirectiveKind) :
    (d.addComponent c).get k = (k.valueIn? c).getD (d.get k) := by
  unfold addComponent
  cases hc : component? c with
  | none =>
    cases hk : k.valueIn? c with
    | none => rfl
    | some v => simp [component?_eq_some_iff.mpr hk] at hc
  | some p =>
    obtain ⟨k', v⟩ := p
    have hv := component?_eq_some_iff.mp hc
    by_cases he : k' = k
    · subst he; simp [get_set, hv]
    · cases hk : k.valueIn? c with
      | none => simp [get_set, he]
      | some w => exact absurd (DirectiveKind.eq_of_valueIn? hv hk) he

/-- The values that the components of a tag give to a directive, in their order. -/
def occurrences (k : DirectiveKind) : Option Text → List Text
  | none => []
  | some tag => (components tag).filterMap k.valueIn?

theorem get_foldl_addComponent (cs : List Text) (d : Directives) (k : DirectiveKind) :
    (cs.foldl addComponent d).get k = (cs.filterMap k.valueIn?).getLast?.getD (d.get k) := by
  induction cs generalizing d with
  | nil => rfl
  | cons c cs ih =>
    rw [List.foldl_cons, ih, get_addComponent]
    cases h : k.valueIn? c <;> simp [h, List.getLast?_cons]

theorem get_ofTag (tag : Option Text) (k : DirectiveKind) :
    (ofTag tag).get k = (occurrences k tag).getLast?.getD [] := by
  cases tag with
  | none => cases k <;> rfl
  | some tag =>
    have h := get_foldl_addComponent (components tag) {} k
    have hk : ({} : Directives).get k = [] := by cases k <;> rfl
    rwa [hk] at h

theorem mentions_iff : mentions k tag = true ↔ occurrences k tag ≠ [] := by
  cases tag with
  | none => simp [mentions, occurrences]
  | some tag =>
    simp only [mentions, occurrences, List.any_eq_true, ne_eq, List.filterMap_eq_nil_iff,
      not_forall, List.isPrefixOf_iff_prefix, exists_prop, ← Option.isSome_iff_ne_none,
      Option.isSome_iff_exists, DirectiveKind.valueIn?_eq_some_iff]
    constructor
    · rintro ⟨c, hc, r, hr⟩
      exact ⟨c, hc, _, r, hr.symm, rfl⟩
    · rintro ⟨c, hc, _, r, hr, -⟩
      exact ⟨c, hc, r, hr.symm⟩

theorem get_ofTag_infix (tag : Text) (k : DirectiveKind) : (ofTag (some tag)).get k <:+: tag := by
  rw [get_ofTag]
  cases h : (occurrences k (some tag)).getLast? with
  | none => exact List.nil_infix
  | some v =>
    obtain ⟨c, hc, hv⟩ := List.mem_filterMap.mp (List.mem_of_mem_getLast? h)
    exact (DirectiveKind.valueIn?_infix hv).trans (Text.infix_of_mem_splitAt hc)

theorem semicolon_not_mem_get_ofTag (tag : Option Text) (k : DirectiveKind) :
    .scalar ';' ∉ (ofTag tag).get k := by
  rw [get_ofTag]
  cases h : (occurrences k tag).getLast? with
  | none => exact List.not_mem_nil
  | some v =>
    cases tag with
    | none => simp [occurrences] at h
    | some tag =>
      obtain ⟨c, hc, hv⟩ := List.mem_filterMap.mp (List.mem_of_mem_getLast? h)
      exact fun hs => Text.not_mem_of_mem_splitAt hc ((DirectiveKind.valueIn?_infix hv).mem hs)

theorem trimmed_get_ofTag (tag : Option Text) (k : DirectiveKind) :
    ((ofTag tag).get k).Trimmed := by
  rw [get_ofTag]
  cases h : (occurrences k tag).getLast? with
  | none => exact Text.trimmed_of_forall (by simp)
  | some v =>
    cases tag with
    | none => simp [occurrences] at h
    | some tag =>
      obtain ⟨c, -, hv⟩ := List.mem_filterMap.mp (List.mem_of_mem_getLast? h)
      exact DirectiveKind.trimmed_of_valueIn? hv

end Directives

end StructCli
