import StructCli.Proofs.Directive.Normal
import StructCli.Proofs.Directive.Presence

/-! # Tags in a row

Two tags with a semicolon between them make a tag. It has a directive of the second tag, if that
carries one, even one without a value, and else that of the first. Tags that have no directive in
common can be put in either order.
-/

namespace StructCli

namespace Directives

variable {k : DirectiveKind} {a b t : Text}

theorem components_append (a b : Text) :
    components (a ++ .scalar ';' :: b) = components a ++ components b :=
  Text.splitAt_append a b

theorem occurrences_append (k : DirectiveKind) (a b : Text) :
    occurrences k (some (a ++ .scalar ';' :: b)) =
      occurrences k (some a) ++ occurrences k (some b) := by
  simp only [occurrences, components_append, List.filterMap_append]

theorem mentions_append (k : DirectiveKind) (a b : Text) :
    mentions k (some (a ++ .scalar ';' :: b)) = (mentions k (some a) || mentions k (some b)) := by
  simp only [mentions, components_append, List.any_append]

theorem mentions_iff_carries : mentions k (some t) = true ↔ ∃ c ∈ components t, Carries k c := by
  simp only [mentions, List.any_eq_true, List.isPrefixOf_iff_prefix, Carries]

theorem get_ofTag_of_not_mentions {tag : Option Text} (h : ¬ mentions k tag = true) :
    (ofTag tag).get k = [] := by
  rw [mentions_iff_not_absent, not_not] at h
  exact h.get_eq

/-- Of the occurrences in both tags the last one is that of the second tag, if there is one. -/
theorem get_ofTag_append (k : DirectiveKind) (a b : Text) :
    (ofTag (some (a ++ .scalar ';' :: b))).get k =
      if mentions k (some b) then (ofTag (some b)).get k else (ofTag (some a)).get k := by
  rw [get_ofTag, occurrences_append]
  by_cases h : mentions k (some b) = true
  · have hb : occurrences k (some b) ≠ [] := mentions_iff.mp h
    rw [if_pos h, List.getLast?_append_of_ne_nil _ hb, get_ofTag]
  · have hb : occurrences k (some b) = [] := by rwa [mentions_iff, ne_eq, not_not] at h
    rw [if_neg h, hb, List.append_nil, get_ofTag]

theorem ofTag_append_comm (h : ∀ k, ¬ (mentions k (some a) = true ∧ mentions k (some b) = true)) :
    ofTag (some (a ++ .scalar ';' :: b)) = ofTag (some (b ++ .scalar ';' :: a)) := by
  apply eq_of_get
  intro k
  rw [get_ofTag_append, get_ofTag_append]
  by_cases ha : mentions k (some a) = true
  · have hb : ¬ mentions k (some b) = true := fun hb => h k ⟨ha, hb⟩
    rw [if_pos ha, if_neg hb]
  · rw [if_neg ha]
    split
    · rfl
    · next hb => rw [get_ofTag_of_not_mentions ha, get_ofTag_of_not_mentions hb]

theorem ofTag_append_of_no_directive (h : ∀ k, mentions k (some a) = false) (b : Text) :
    ofTag (some (b ++ .scalar ';' :: a)) = ofTag (some b) := by
  apply eq_of_get
  intro k
  rw [get_ofTag_append, h k]
  rfl

end Directives

open Directives

/-- Two tags in a row have the directives of both. The second one overrides, even by a directive
without a value. -/
theorem ofTag_append_merges (a b : Text) :
    (∀ k, (ofTag (some (a ++ .scalar ';' :: b))).get k =
      if mentions k (some b) then (ofTag (some b)).get k else (ofTag (some a)).get k) ∧
    (∀ k, mentions k (some (a ++ .scalar ';' :: b)) =
      (mentions k (some a) || mentions k (some b))) ∧
    (∀ k t, mentions k (some t) = true ↔ ∃ c ∈ components t, k.marker <+: c.strip) ∧
    ((∀ k, ¬ (mentions k (some a) = true ∧ mentions k (some b) = true)) →
      ofTag (some (a ++ .scalar ';' :: b)) = ofTag (some (b ++ .scalar ';' :: a))) ∧
    ((∀ k, mentions k (some a) = false) →
      ofTag (some (a ++ .scalar ';' :: b)) = ofTag (some b) ∧
      ofTag (some (b ++ .scalar ';' :: a)) = ofTag (some b)) := by
  refine ⟨fun k => get_ofTag_append k a b, fun k => mentions_append k a b,
    fun k t => mentions_iff_carries, ofTag_append_comm, fun h => ?_⟩
  have hcomm : ofTag (some (a ++ .scalar ';' :: b)) = ofTag (some (b ++ .scalar ';' :: a)) := by
    apply ofTag_append_comm
    rintro k ⟨ha, -⟩
    rw [h k] at ha
    cases ha
  rw [hcomm]
  exact ⟨ofTag_append_of_no_directive h b, ofTag_append_of_no_directive h b⟩

/-- A position without a value overrides the one before it, a flag and a default change places,
and a tag without directives adds nothing. -/
theorem ofTag_append_examples :
    (ofTag (some "arg:1; arg: ;flag:x")).get .arg = [] ∧
    ofTag (some " flag:all,a;;default: arg:1 ") =
      ofTag (some "default: arg:1 ; flag:all,a;") ∧
    ofTag (some "; Flag:x;flag;arg:1") = ofTag (some "arg:1") := by
  refine ⟨?_, ?_, ?_⟩
  · exact (ofTag_append_merges "arg:1" " arg: ;flag:x").1 .arg
  · refine (ofTag_append_merges " flag:all,a;" "default: arg:1 ").2.2.2.1 fun k => ?_
    cases k <;> decide
  · refine ((ofTag_append_merges "; Flag:x;flag" "arg:1").2.2.2.2 fun k => ?_).1
    cases k <;> decide

end StructCli
