import StructCli.Proofs.Directive.Reading

/-! # Normal forms of tags

The written form of a tag's directives is a tag that gives the same directives. Directives of any
origin are read back from their written form exactly if each of their values fits into a component
of a tag.
-/

namespace StructCli

open Text

theorem DirectiveKind.marker_trimmed (k : DirectiveKind) : k.marker.Trimmed ∧ k.marker ≠ [] := by
  cases k <;> decide

theorem DirectiveKind.semicolon_not_mem_marker (k : DirectiveKind) : .scalar ';' ∉ k.marker := by
  cases k <;> decide

theorem DirectiveKind.valueIn?_marker_append (k k' : DirectiveKind) {v : Text} (hv : v.Trimmed)
    (hn : v ≠ []) : k'.valueIn? (k.marker ++ v) = if k = k' then some v else none := by
  have hm := k.marker_trimmed
  have hs : (k.marker ++ v).strip = k.marker ++ v := by
    have := strip_of_trimmed (hm.1.append (b := []) hm.2 hv hn)
    rwa [List.append_nil] at this
  have hk : k.valueIn? (k.marker ++ v) = some v :=
    valueIn?_eq_some_iff.mpr ⟨v, hs, strip_of_trimmed hv⟩
  split
  · next he => rw [← he, hk]
  · next he =>
    cases ho : k'.valueIn? (k.marker ++ v) with
    | none => rfl
    | some w => exact absurd (eq_of_valueIn? hk ho) he

namespace Directives

variable {d : Directives}

theorem eq_of_get {e : Directives} (h : ∀ k, d.get k = e.get k) : d = e := by
  obtain ⟨a, b, c⟩ := d
  obtain ⟨a', b', c'⟩ := e
  obtain rfl : a = a' := h .arg
  obtain rfl : b = b' := h .default
  obtain rfl : c = c' := h .flag
  rfl

/-- Each value fits into a component of a tag: no semicolon is in it, and no white space stands at
its ends. -/
def Fits (d : Directives) : Prop := ∀ k, .scalar ';' ∉ d.get k ∧ (d.get k).Trimmed

def parts (d : Directives) : List Text :=
  (DirectiveKind.all.filter fun k => d.get k ≠ []).map fun k => k.marker ++ d.get k

theorem occurrences_render_of_parts (h : d.Fits) (k : DirectiveKind) :
    occurrences k (some d.render) = d.parts.filterMap k.valueIn? := by
  have hp : ∀ p ∈ d.parts, .scalar ';' ∉ p := by
    intro p hp
    obtain ⟨k', -, rfl⟩ := List.mem_map.mp hp
    rw [List.mem_append, not_or]
    exact ⟨k'.semicolon_not_mem_marker, (h k').1⟩
  rw [occurrences, components, render, ← parts]
  by_cases hn : d.parts = []
  · rw [hn]
    cases k <;> rfl
  · rw [show ofString ";" = [.scalar ';'] from rfl, splitAt_joinWith hn hp]

theorem occurrences_render (h : d.Fits) (k : DirectiveKind) :
    occurrences k (some d.render) = if d.get k = [] then [] else [d.get k] := by
  have hv : ∀ k' ∈ DirectiveKind.all.filter fun k => d.get k ≠ [],
      k.valueIn? (k'.marker ++ d.get k') = if k' = k then some (d.get k') else none := by
    intro k' hk
    exact k'.valueIn?_marker_append k (h k').2 (by simpa using (List.mem_filter.mp hk).2)
  rw [occurrences_render_of_parts h, parts, List.filterMap_map]
  refine (List.filterMap_congr hv).trans ?_
  rw [List.filterMap_filter]
  by_cases hk : d.get k = [] <;> cases k <;> simp [DirectiveKind.all, hk]

theorem ofTag_render (h : d.Fits) : ofTag (some d.render) = d := by
  apply eq_of_get
  intro k
  rw [get_ofTag, occurrences_render h]
  split
  · next hk => rw [hk]; rfl
  · rfl

theorem fits_ofTag (tag : Option Text) : (ofTag tag).Fits := fun k =>
  ⟨semicolon_not_mem_get_ofTag tag k, trimmed_get_ofTag tag k⟩

end Directives

open Directives

/-- Directives are read back from their written form exactly if their values fit into a tag, as
all do that a tag gives. So the written form of a tag's directives can take the place of the tag. -/
theorem ofTag_render_eq_self_iff_fits :
    (∀ d : Directives, ofTag (some d.render) = d ↔
      ∀ k, .scalar ';' ∉ d.get k ∧ (d.get k).Trimmed) ∧
    ∀ tag : Option Text, (∀ k, .scalar ';' ∉ (ofTag tag).get k ∧ ((ofTag tag).get k).Trimmed) ∧
      ofTag (some (ofTag tag).render) = ofTag tag ∧
      (ArgSpec.ofTag (some (ofTag tag).render)).outcome = (ArgSpec.ofTag tag).outcome ∧
      defaultOfTag (some (ofTag tag).render) = defaultOfTag tag ∧
      (FlagSpec.ofTag (some (ofTag tag).render)).outcome = (FlagSpec.ofTag tag).outcome := by
  refine ⟨fun d => ⟨fun h => ?_, ofTag_render⟩, fun tag => ?_⟩
  · rw [← h]
    exact fits_ofTag (some d.render)
  · have hr : ofTag (some (ofTag tag).render) = ofTag tag := ofTag_render (fits_ofTag tag)
    refine ⟨fits_ofTag tag, hr, ?_, ?_, ?_⟩
    · exact readDirective_outcome_congr (by rw [hr])
    · simp only [defaultOfTag, hr]
    · exact readDirective_outcome_congr (by rw [hr])

end StructCli
