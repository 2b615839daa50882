import StructCli.Proofs.Command.NameWords

/-! # Kebab case

The command of a package whose name is in ASCII is called after groups of small letters and groups
of digits, with single hyphens between them. Such groups are found again in a name, whatever
separates them there, so that the name of a command is the name of its own command.
-/

namespace StructCli

namespace Command

/-- One or more small letters, or one or more digits. -/
inductive Group : Text → Prop where

  | letters {g : Text} : g ≠ [] → (∀ c ∈ g, 97 ≤ c.value ∧ c.value ≤ 122) → Group g

  | digits {g : Text} : g ≠ [] → (∀ c ∈ g, 48 ≤ c.value ∧ c.value ≤ 57) → Group g

def IsSeparator (c : CodePoint) : Prop :=
  c.value < 128 ∧ c.isAsciiLetter = false ∧ c.isAsciiDigit = false

instance : DecidablePred IsSeparator := fun c =>
  inferInstanceAs (Decidable (c.value < 128 ∧ c.isAsciiLetter = false ∧ c.isAsciiDigit = false))

/-- The groups stand in the text in this order. There are separators between any two of them, and
there may be some before the first group and behind the last one. -/
inductive Separated : Text → List Text → Prop where

  | nil : Separated [] []

  | separator {c : CodePoint} {t : Text} {gs : List Text} : IsSeparator c → Separated t gs →
      Separated (c :: t) gs

  | group {g t : Text} {gs : List Text} : Group g → (∀ c ∈ t.head?, IsSeparator c) →
      Separated t gs → Separated (g ++ t) (g :: gs)

variable {c x y : CodePoint} {g p t w : Text} {gs : List Text}

theorem IsSeparator.not_isAlphanumeric (h : IsSeparator c) : c.isAlphanumeric = false := by
  simp [CodePoint.isAlphanumeric, h.1, h.2.1, h.2.2]

/-! ## Groups as words -/

theorem Group.ne_nil (h : Group g) : g ≠ [] := by
  cases h with
  | letters hn => exact hn
  | digits hn => exact hn

theorem Group.exists_uniform (h : Group g) : ∃ b, ∀ c ∈ g, c.value < 128 ∧
    c.isAlphanumeric = true ∧ c.isUpper = false ∧ c.isDigit = b := by
  cases h with
  | letters _ hg => exact ⟨false, fun c hc => CodePoint.classes_of_small (hg c hc)⟩
  | digits _ hg => exact ⟨true, fun c hc => CodePoint.classes_of_digit (hg c hc)⟩

theorem not_boundary_of_uniform {next : Option CodePoint} (hd : x.isDigit = y.isDigit)
    (hu : y.isUpper = false) : ¬ Boundary x y next := by
  simp [Boundary, hd, hu]

theorem nameWords_append_of_uniform {b : Bool} (hn : g ≠ [])
    (hg : ∀ c ∈ g, c.isAlphanumeric = true ∧ c.isUpper = false ∧ c.isDigit = b)
    (ht : ∀ c ∈ t.head?, c.isAlphanumeric = false) : nameWords (g ++ t) = g :: nameWords t := by
  induction g with
  | nil => exact absurd rfl hn
  | cons c g ih =>
    obtain ⟨⟨hc, -, hb⟩, hrest⟩ := List.forall_mem_cons.mp hg
    cases g with
    | nil =>
      refine nameWords_of_end hc fun gap y after ho => ?_
      obtain ⟨rfl, hy, -⟩ := ho
      cases gap with
      | nil => exact absurd hy (by simp [ht y rfl])
      | cons e gap => exact .inl (List.cons_ne_nil e gap)
    | cons d g =>
      obtain ⟨hd, hu, hb'⟩ := hrest d List.mem_cons_self
      have hj : ¬ Boundary c d (g ++ t).head? := not_boundary_of_uniform (hb.trans hb'.symm) hu
      rw [List.cons_append, List.cons_append, nameWords_of_join hc hd hj, ← List.cons_append,
        ih (List.cons_ne_nil d g) hrest, List.modifyHead_cons]

theorem Separated.nameWords_eq (h : Separated t gs) : nameWords t = gs := by
  induction h with
  | nil => rfl
  | separator hc _ ih => rw [nameWords_of_separator hc.not_isAlphanumeric, ih]
  | group hg ht _ ih =>
    obtain ⟨b, hb⟩ := hg.exists_uniform
    rw [nameWords_append_of_uniform hg.ne_nil (fun c hc => (hb c hc).2)
      fun c hc => (ht c hc).not_isAlphanumeric, ih]

theorem Group.lower_eq (h : Group g) : Text.lower g = g := by
  obtain ⟨b, hb⟩ := h.exists_uniform
  exact Text.lower_eq_self fun c hc => ⟨(hb c hc).1, (hb c hc).2.2.1⟩

theorem Separated.group_of_mem (h : Separated t gs) (hg : g ∈ gs) : Group g := by
  induction h with
  | nil => exact absurd hg List.not_mem_nil
  | separator _ _ ih => exact ih hg
  | group hg' _ _ ih =>
    rcases List.mem_cons.mp hg with rfl | hg
    · exact hg'
    · exact ih hg

theorem Separated.nameOfPackage_eq (h : Separated t gs) :
    nameOfPackage t = Text.joinWith "-" gs := by
  have hlower : gs.map Text.lower = gs :=
    (List.map_congr_left fun g hg => (h.group_of_mem hg).lower_eq).trans (List.map_id _)
  rw [nameOfPackage, h.nameWords_eq, hlower]

theorem separated_joinWith (h : ∀ g ∈ gs, Group g) : Separated (Text.joinWith "-" gs) gs := by
  have hhyphen : IsSeparator (.scalar '-') := by decide
  induction gs with
  | nil => exact .nil
  | cons g gs ih =>
    obtain ⟨hg, hgs⟩ := List.forall_mem_cons.mp h
    cases gs with
    | nil =>
      have hsingle := Separated.group hg (t := []) nofun .nil
      simpa using hsingle
    | cons k gs =>
      have hhead : ∀ c ∈ (.scalar '-' :: Text.joinWith "-" (k :: gs) : Text).head?,
          IsSeparator c := fun c hc => Option.some.inj hc ▸ hhyphen
      rw [Text.joinWith_cons_cons, List.append_assoc]
      exact .group hg hhead (.separator hhyphen (ih hgs))

/-! ## Words of ASCII -/

theorem exists_isDigit_of_mem_nameWords (h : w ∈ nameWords p) :
    ∃ b, ∀ c ∈ w, c.isDigit = b := by
  induction p generalizing w with
  | nil => exact absurd h List.not_mem_nil
  | cons c t ih =>
    rcases nameWords_cases c t with hc | ⟨hc, hb⟩ | ⟨hc, d, s, rfl, hd, hb⟩
    · rw [nameWords_of_separator hc] at h
      exact ih h
    · rw [nameWords_of_end hc hb] at h
      rcases List.mem_cons.mp h with rfl | h
      · exact ⟨c.isDigit, fun e he => by rw [List.mem_singleton.mp he]⟩
      · exact ih h
    · obtain ⟨v, vs, hv⟩ := exists_nameWords_cons hd s
      rw [nameWords_of_join hc hd hb, hv, List.modifyHead_cons] at h
      rcases List.mem_cons.mp h with rfl | h
      · obtain ⟨b, hall⟩ := ih (hv ▸ List.mem_cons_self)
        have hcd : c.isDigit = d.isDigit := by
          rw [Bool.eq_iff_iff]
          exact by_contra fun hn => hb (.inl hn)
        exact ⟨b, List.forall_mem_cons.mpr ⟨hcd.trans (hall d List.mem_cons_self), hall⟩⟩
      · exact ih (hv ▸ List.mem_cons_of_mem _ h)

theorem group_lower (hp : ∀ c ∈ p, c.value < 128) (h : w ∈ nameWords p) :
    Group (Text.lower w) := by
  obtain ⟨hn, hw⟩ := mem_nameWords h
  have hascii : ∀ c ∈ w, c.value < 128 := fun c hc => hp c (hw c hc).1
  have hclass : ∀ c ∈ w, c.isAsciiLetter = true ∨ c.isAsciiDigit = true :=
    fun c hc => (CodePoint.isAlphanumeric_iff_of_ascii (hascii c hc)).mp (hw c hc).2
  obtain ⟨b, hb⟩ := exists_isDigit_of_mem_nameWords h
  have hdigit : ∀ c ∈ w, c.isAsciiDigit = b :=
    fun c hc => (CodePoint.isDigit_of_ascii (hascii c hc)).symm.trans (hb c hc)
  cases b with
  | true =>
    have hg : Group w := .digits hn fun c hc => by
      simpa [CodePoint.isAsciiDigit] using hdigit c hc
    rwa [hg.lower_eq]
  | false =>
    refine .letters (Text.lower_ne_nil hn) fun d hd => ?_
    rw [Text.lower_of_ascii hascii] at hd
    obtain ⟨c, hc, hd⟩ := List.mem_flatMap.mp hd
    have hl : c.isAsciiLetter = true := (hclass c hc).resolve_right (by simp [hdigit c hc])
    exact CodePoint.small_of_mem_lower hl hd

theorem exists_groups (hp : ∀ c ∈ p, c.value < 128) :
    ∃ gs, (∀ g ∈ gs, Group g) ∧ nameOfPackage p = Text.joinWith "-" gs := by
  refine ⟨(nameWords p).map Text.lower, fun g hg => ?_, rfl⟩
  obtain ⟨w, hw, rfl⟩ := List.mem_map.mp hg
  exact group_lower hp hw

/-- The name of a command is made of groups with single hyphens between them, if that of the
package is in ASCII, and is the name of its own command. Groups that stand in a name, whatever
separates them, are those of the command. -/
theorem nameOfPackage_in_kebab_case :
    (∀ p, (∀ c ∈ p, c.value < 128) →
      (∃ gs, (∀ g ∈ gs, Group g) ∧ nameOfPackage p = Text.joinWith "-" gs) ∧
      nameOfPackage (nameOfPackage p) = nameOfPackage p) ∧
    ∀ t gs, Separated t gs → nameOfPackage t = Text.joinWith "-" gs := by
  refine ⟨fun p hp => ?_, fun t gs h => h.nameOfPackage_eq⟩
  obtain ⟨gs, hgs, he⟩ := exists_groups hp
  refine ⟨⟨gs, hgs, he⟩, ?_⟩
  rw [he]
  exact (separated_joinWith hgs).nameOfPackage_eq

/-- A name with a run of capitals, and groups with runs of separators around them. -/
theorem nameOfPackage_of_server :
    (∃ gs, (∀ g ∈ gs, Group g) ∧ nameOfPackage "HTTPServer_v2" = Text.joinWith "-" gs) ∧
    nameOfPackage (nameOfPackage "HTTPServer_v2") = nameOfPackage "HTTPServer_v2" ∧
    nameOfPackage "_http -2." = "http-2" := by
  obtain ⟨hgroups, hagain⟩ := nameOfPackage_in_kebab_case.1 "HTTPServer_v2" (by decide)
  refine ⟨hgroups, hagain, ?_⟩
  have hhttp : Group "http" := .letters (by decide) (by decide)
  have htwo : Group "2" := .digits (by decide) (by decide)
  have hend : Separated "2." ["2"] := .group htwo (by decide) (.separator (by decide) .nil)
  have hgap : Separated " -2." ["2"] := .separator (by decide) (.separator (by decide) hend)
  have hall : Separated "_http -2." ["http", "2"] :=
    .separator (by decide) (.group hhttp (by decide) hgap)
  exact nameOfPackage_in_kebab_case.2 _ _ hall

end Command

end StructCli
