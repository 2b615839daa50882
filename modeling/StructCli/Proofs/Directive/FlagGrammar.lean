import StructCli.Proofs.Directive.Flag

/-! # The grammar of `flag` values

White space at its ends aside, a value is read exactly if it is a long name, behind which a comma,
white space and a letter may stand. All other values are malformed. The flag has both names exactly
if the value has a comma, and white space behind the comma does not show in it.
-/

namespace StructCli

namespace FlagSpec

/-- The texts differ at most in the white space at their ends and behind a comma. -/
def Respaced (v v' : Text) : Prop :=
  v.strip = v'.strip ∨ ∃ before gap gap' after, Text.Blank gap ∧ Text.Blank gap' ∧
    v.strip = before ++ .scalar ',' :: (gap ++ after) ∧
    v'.strip = before ++ .scalar ',' :: (gap' ++ after)

variable {l t v v' w : Text} {f : FlagSpec}

theorem LongName.comma_not_mem (h : LongName l) : .scalar ',' ∉ l :=
  fun hc => Bool.noConfusion (h.forall_isNameChar _ hc)

theorem comma_not_mem_blank (h : Text.Blank t) : .scalar ',' ∉ t :=
  fun hc => Bool.noConfusion (h _ hc)

theorem Describes.posixy_iff (h : Describes w f) : f.posixy = true ↔ .scalar ',' ∈ w := by
  cases h with
  | long hl => simp [posixy, hl.comma_not_mem]
  | short hl => simp [posixy, hl.ne_nil]

theorem describes_comma_iff : Describes (l ++ .scalar ',' :: t) f ↔
    LongName l ∧ ∃ c, c.isAsciiLetter = true ∧ Text.stripStart t = [c] ∧ f = ⟨l, [c]⟩ := by
  constructor
  · intro h
    generalize hw : l ++ .scalar ',' :: t = w at h
    cases h with
    | long hl => exact absurd (hw ▸ List.mem_append_right l List.mem_cons_self) hl.comma_not_mem
    | @short k gap c hk hg hc =>
      have hrest : .scalar ',' ∉ gap ++ [c] := by
        rw [List.mem_append, List.mem_singleton]
        rintro (hm | rfl)
        · exact comma_not_mem_blank hg hm
        · cases hc
      obtain ⟨rfl, -, rfl⟩ :=
        (List.append_cons_inj_of_notMem hk.comma_not_mem hrest).mp hw.symm
      exact ⟨hk, c, hc, stripStart_eq_singleton_iff.mpr
        ⟨isBlank_of_isAsciiLetter hc, gap, hg, rfl⟩, rfl⟩
  · rintro ⟨hl, c, hc, hs, rfl⟩
    obtain ⟨-, gap, hg, rfl⟩ := stripStart_eq_singleton_iff.mp hs
    exact .short hl hg hc

theorem Respaced.describes_iff (h : Respaced v v') :
    Describes v.strip f ↔ Describes v'.strip f := by
  rcases h with h | ⟨before, gap, gap', after, hg, hg', h, h'⟩
  · rw [h]
  · rw [h, h', describes_comma_iff, describes_comma_iff, Text.stripStart_append hg,
      Text.stripStart_append hg']

theorem ofValue_eq_error_iff {e : DirectiveError} : ofValue v = .error e ↔
    (∀ f, ¬ Describes v.strip f) ∧
      e = .malformed .flag v.strip (if v.strip = [] then .empty else .flagShape) := by
  constructor
  · intro h
    have hnone : ∀ f, ¬ Describes v.strip f := by
      intro f hf
      cases h.symm.trans (ofValue_eq_ok_iff.mpr hf)
    refine ⟨hnone, ?_⟩
    simp only [ofValue] at h
    split at h
    · next hv =>
      rw [if_pos hv]
      exact (Except.error.inj h).symm
    · next hv =>
      rw [if_neg hv]
      split at h
      · cases h
      · exact (Except.error.inj h).symm
  · rintro ⟨hnone, rfl⟩
    cases hr : readStripped? v.strip with
    | some f => exact absurd (readStripped?_eq_some_iff.mp hr) (hnone f)
    | none =>
      simp only [ofValue, hr]
      split <;> rfl

/-- The reader of `flag` values accepts the grammar and calls every other value malformed. The
spelling of an accepted value shows in the flag by its comma only, and not by its white space. -/
theorem ofValue_reads_names (v : Text) :
    (∀ f, ofValue v = .ok f ↔ Describes v.strip f) ∧
    (∀ e, ofValue v = .error e ↔ (∀ f, ¬ Describes v.strip f) ∧
      e = .malformed .flag v.strip (if v.strip = [] then .empty else .flagShape)) ∧
    (∀ f, ofValue v = .ok f → (f.posixy = true ↔ .scalar ',' ∈ v.strip)) ∧
    ∀ v', Respaced v v' → ∀ f, ofValue v = .ok f ↔ ofValue v' = .ok f := by
  refine ⟨fun f => ofValue_eq_ok_iff, fun e => ofValue_eq_error_iff, ?_, ?_⟩
  · intro f hf
    exact (ofValue_eq_ok_iff.mp hf).posixy_iff
  · intro v' h f
    rw [ofValue_eq_ok_iff, ofValue_eq_ok_iff, h.describes_iff]

/-- White space of several kinds, and a letter beyond ASCII. -/
theorem ofValue_dry_run :
    ofValue "\tdry-run,\u2003\n n\n" = .ok ⟨"dry-run", "n"⟩ ∧
    (⟨"dry-run", "n"⟩ : FlagSpec).posixy = true ∧
    ofValue " dry-run,é" = .error (.malformed .flag "dry-run,é" .flagShape) := by
  have hread : ofValue "\tdry-run,\u2003\n n\n" = .ok ⟨"dry-run", "n"⟩ := by
    refine ((ofValue_reads_names "dry-run,n").2.2.2 _ (.inr ?_) _).mp rfl
    exact ⟨"dry-run", [], "\u2003\n ", "n", by decide, by decide, rfl, rfl⟩
  refine ⟨hread, ?_, ?_⟩
  · exact ((ofValue_reads_names _).2.2.1 _ hread).mpr (by decide)
  · refine ((ofValue_reads_names _).2.1 _).mpr ⟨fun f hf => ?_, rfl⟩
    obtain ⟨-, c, hc, hs, -⟩ := (describes_comma_iff (l := "dry-run") (t := "é")).mp hf
    cases hs
    cases hc

end FlagSpec

end StructCli
