import Mathlib.Data.List.Chain
import StructCli.Proofs.Go.DocGroup

/-! # Doc blocks

The doc of a site is a block of comments without blank rows between them. The block ends with what
stands nearest to the site, on the row of the site or on the row above, and is as long as it can be
without a trailing comment.
-/

namespace StructCli.Go

open RowSpan

namespace Doc

/-- What stands before a site, in the order of the source and without terminators. -/
def preceding (before : List Sibling) : List Sibling :=
  (before.filter fun s => s.kind ≠ .terminator).reverse

/-- A comment after `far` is trailing if the last thing there is no comment and ends on the row on
which the comment starts. -/
def Trailing (far : List Sibling) (c : Sibling) : Prop :=
  ∃ t ∈ far.getLast?, t.comment? = none ∧ t.endRow = c.row

/-- The comment ends on the row or on the one above. -/
def EndsBy (c : Sibling) (row : Nat) : Prop := c.endRow = row ∨ c.endRow + 1 = row

/-- The last things before a site are comments in a row, and none of them is trailing. -/
structure Block (before block : List Sibling) : Prop where
  ends : block <:+ before
  comments : ∀ c ∈ block, c.comment?.isSome
  close : block.IsChain fun c d => EndsBy c d.row
  leading : ∀ far c near, before = far ++ c :: near → c :: near <:+ block → ¬ Trailing far c

/-- The block that all others are the end of. -/
structure LongestBlock (before block : List Sibling) : Prop extends Block before block where
  longest : ∀ other, Block before other → other <:+ block

/-- What a doc at a site is made of. The nearest comment, if nothing else is nearer, decides. -/
structure Documented (site : Site) (doc : Text) : Prop where
  undocumented : (∀ s ∈ (preceding site.before).getLast?, s.comment? = none) → doc = []
  located : ∀ far c, preceding site.before = far ++ [c] → c.comment?.isSome →
    c.endRow + 1 < site.row ∨ EndsBy c site.row
  detached : ∀ far c, preceding site.before = far ++ [c] → c.comment?.isSome →
    c.endRow + 1 < site.row → doc = []
  trailing : ∀ far c, preceding site.before = far ++ [c] → c.comment?.isSome →
    Trailing far c → doc = []
  attached : ∀ far c, preceding site.before = far ++ [c] → c.comment?.isSome →
    EndsBy c site.row → ¬ Trailing far c → ∃ block, block.getLast? = some c ∧
      LongestBlock (far ++ [c]) block ∧
      doc = Comment.groupText (block.filterMap Sibling.comment?)

/-- A doc is empty unless the nearest comment ends on the row above. -/
def OnlyFromAbove (site : Site) (doc : Text) : Prop :=
  ∀ far c, preceding site.before = far ++ [c] → c.comment?.isSome → c.endRow + 1 ≠ site.row →
    doc = []

variable {row : Nat} {c s : Sibling} {before far block cs : List Sibling}

/-! ## Terminators are passed over -/

theorem preceding_cons_of_terminator (h : s.kind = .terminator) :
    preceding (s :: before) = preceding before := by
  simp [preceding, h]

theorem preceding_cons (h : s.kind ≠ .terminator) :
    preceding (s :: before) = preceding before ++ [s] := by
  simp [preceding, h]

theorem isTrailing_preceding (row : Nat) (before : List Sibling) :
    isTrailing row (preceding before).reverse = isTrailing row before := by
  induction before with
  | nil => rfl
  | cons s before ih =>
    cases hk : s.kind with
    | terminator => rw [preceding_cons_of_terminator hk, ih, isTrailing, hk]
    | comment _ => simp [preceding_cons, hk, isTrailing]
    | other => simp [preceding_cons, hk, isTrailing]

theorem comments_preceding (row : Nat) (before : List Sibling) :
    comments row (preceding before).reverse = comments row before := by
  induction before generalizing row with
  | nil => rfl
  | cons s before ih =>
    cases hk : s.kind with
    | terminator => rw [preceding_cons_of_terminator hk, ih, comments, hk]
    | comment _ => simp [preceding_cons, hk, comments, ih, isTrailing_preceding]
    | other => simp [preceding_cons, hk, comments]

def blockAbove (site : Site) : List Sibling :=
  (group site.row (preceding site.before).reverse).reverse

theorem above_eq_blockAbove (site : Site) : above site.row site.before =
    Comment.groupText ((blockAbove site).filterMap Sibling.comment?) := by
  rw [above, ← comments_preceding, comments_eq_group, blockAbove, ← List.filterMap_reverse]

theorem isTrailing_reverse (h : ∀ s ∈ far, s.kind ≠ .terminator) :
    isTrailing c.row far.reverse = true ↔ Trailing far c := by
  rcases far.eq_nil_or_concat with rfl | ⟨far, t, rfl⟩
  · simp [isTrailing, Trailing]
  · have ht := h t (by simp)
    rw [Trailing, List.concat_eq_append, List.reverse_append, List.getLast?_concat]
    cases hk : t.kind with
    | terminator => exact absurd hk ht
    | comment _ => simp [isTrailing, hk, Sibling.comment?]
    | other => simp [isTrailing, hk, Sibling.comment?]

/-! ## Blocks and groups -/

/-- Among things in order, comments adjoin a row if each of them ends by the row of the next. The
induction is from the row backwards. -/
theorem adjoins_iff (hk : ∀ s ∈ cs, s.kind ≠ .terminator)
    (ho : Ordered 0 (Sibling.spans cs ++ [(row, row)])) : Adjoins row cs ↔
      (∀ c ∈ cs, c.comment?.isSome) ∧ cs.IsChain (fun d c => EndsBy c d.row) ∧
        ∀ c ∈ cs.head?, EndsBy c row := by
  induction cs generalizing row with
  | nil => simp [Adjoins]
  | cons s cs ih =>
    have hs := hk s List.mem_cons_self
    rw [Sibling.spans_cons, Sibling.spans_singleton hs, List.append_assoc, ordered_append] at ho
    obtain ⟨hcs, hlast, hle, hrow, -⟩ := ho
    have ih := ih (fun c hc => hk c (List.mem_cons_of_mem s hc))
      (ordered_append.mpr ⟨hcs, hlast, Nat.le_refl _, trivial⟩)
    rw [Adjoins]
    cases hkind : s.kind with
    | terminator => exact absurd hkind hs
    | other => simp [Sibling.comment?, hkind]
    | comment text =>
      have hend : row ≤ s.endRow + 1 ↔ EndsBy s row := by
        unfold EndsBy
        omega
      simp only [ih, hend, List.forall_mem_cons, List.isChain_cons, List.head?_cons,
        Option.mem_some_iff, forall_eq', Sibling.comment?, hkind, Option.isSome_some, true_and]
      tauto

variable {site : Site}

theorem ne_terminator_of_mem_preceding (h : s ∈ preceding before) : s.kind ≠ .terminator := by
  simpa using (List.mem_filter.mp (List.mem_reverse.mp h)).2

theorem ordered_of_suffix (h : site.InOrder) (hb : block <:+ preceding site.before) :
    Ordered 0 (Sibling.spans block.reverse ++ [(site.row, site.row)]) := by
  have hsub : block.reverse.Sublist site.before := by
    have hr := hb.sublist.reverse
    rw [preceding, List.reverse_reverse] at hr
    exact hr.trans List.filter_sublist
  exact h.sublist ((hsub.reverse.filterMap _).append (List.Sublist.refl _))

theorem adjoins_reverse_iff (h : site.InOrder) (hb : block <:+ preceding site.before) :
    Adjoins site.row block.reverse ↔ (∀ c ∈ block, c.comment?.isSome) ∧
      (block.IsChain fun c d => EndsBy c d.row) ∧
      ∀ c ∈ block.getLast?, EndsBy c site.row := by
  have hk : ∀ s ∈ block.reverse, s.kind ≠ .terminator :=
    fun s hs => ne_terminator_of_mem_preceding (hb.subset (List.mem_reverse.mp hs))
  rw [adjoins_iff hk (ordered_of_suffix h hb), List.isChain_reverse, List.head?_reverse]
  simp only [List.mem_reverse]

/-- The group above a site reaches back to a comment if all from there on is close to the site, and
the comment is not trailing. -/
theorem suffix_blockAbove_iff (h : site.InOrder) {near : List Sibling}
    (hp : preceding site.before = far ++ c :: near) (hc : c.comment?.isSome) :
    c :: near <:+ blockAbove site ↔ ((∀ d ∈ c :: near, d.comment?.isSome) ∧
      ((c :: near).IsChain fun c d => EndsBy c d.row) ∧
      ∀ d ∈ (c :: near).getLast?, EndsBy d site.row) ∧ ¬ Trailing far c := by
  have hrev : (preceding site.before).reverse = near.reverse ++ c :: far.reverse := by
    rw [hp]
    simp
  have hfar : ∀ s ∈ far, s.kind ≠ .terminator :=
    fun s hs => ne_terminator_of_mem_preceding (hp ▸ List.mem_append_left _ hs)
  have hgroup : c :: near <:+ blockAbove site ↔
      near.reverse ++ [c] <+: group site.row (near.reverse ++ c :: far.reverse) := by
    rw [blockAbove, hrev, ← List.reverse_prefix, List.reverse_reverse, List.reverse_cons]
  rw [hgroup, prefix_group_iff hc, ← isTrailing_reverse hfar, Bool.not_eq_true,
    ← List.reverse_cons, adjoins_reverse_iff h ⟨far, hp.symm⟩]

theorem blockAbove_suffix (site : Site) : blockAbove site <:+ preceding site.before := by
  have h := List.reverse_suffix.mpr (group_begins site.row (preceding site.before).reverse)
  rwa [List.reverse_reverse] at h

theorem comment_of_mem_group (h : s ∈ group row before) (hs : s.kind ≠ .terminator) :
    s.comment?.isSome := by
  induction before generalizing row with
  | nil => exact absurd h List.not_mem_nil
  | cons t before ih =>
    rw [group] at h
    cases hk : t.kind with
    | terminator =>
      rcases List.mem_cons.mp (by simpa [hk] using h) with rfl | h
      · exact absurd hk hs
      · exact ih h
    | other => simp [hk] at h
    | comment text =>
      simp only [hk] at h
      split at h
      · exact absurd h List.not_mem_nil
      · rcases List.mem_cons.mp h with rfl | h
        · simp [Sibling.comment?, hk]
        · exact ih h

theorem comment_of_mem_blockAbove (h : s ∈ blockAbove site) : s.comment?.isSome :=
  comment_of_mem_group (List.mem_reverse.mp h)
    (ne_terminator_of_mem_preceding ((blockAbove_suffix site).subset h))

theorem block_blockAbove (h : site.InOrder) : Block (preceding site.before) (blockAbove site) := by
  have hleading : ∀ far c near, preceding site.before = far ++ c :: near →
      c :: near <:+ blockAbove site → ¬ Trailing far c := by
    intro far c near hp hb
    have hc := comment_of_mem_blockAbove (hb.subset List.mem_cons_self)
    exact ((suffix_blockAbove_iff h hp hc).mp hb).2
  refine ⟨blockAbove_suffix site, fun c hc => comment_of_mem_blockAbove hc, ?_, hleading⟩
  obtain ⟨far, hp⟩ := blockAbove_suffix site
  cases hb : blockAbove site with
  | nil => exact .nil
  | cons c near =>
    have hc := comment_of_mem_blockAbove (hb ▸ List.mem_cons_self : c ∈ blockAbove site)
    rw [hb] at hp
    exact ((suffix_blockAbove_iff h hp.symm hc).mp (hb ▸ List.suffix_refl _)).1.2.1

theorem longestBlock_blockAbove (h : site.InOrder) (hp : preceding site.before = far ++ [c])
    (hc : EndsBy c site.row) : LongestBlock (preceding site.before) (blockAbove site) := by
  refine ⟨block_blockAbove h, fun other ho => ?_⟩
  cases other with
  | nil => exact List.nil_suffix
  | cons d near =>
    obtain ⟨far', hfar⟩ := ho.ends
    have hlast : (d :: near).getLast? = some c := by
      have he := congrArg List.getLast? (hfar.trans hp)
      rwa [List.getLast?_append_of_ne_nil _ (List.cons_ne_nil d near), List.getLast?_concat] at he
    refine (suffix_blockAbove_iff h hfar.symm (ho.comments d List.mem_cons_self)).mpr
      ⟨⟨ho.comments, ho.close, ?_⟩, ho.leading far' d near hfar.symm (List.suffix_refl _)⟩
    intro e he
    rw [hlast] at he
    exact Option.some.inj he ▸ hc

/-! ## The doc of a site -/

theorem nearest_mem_blockAbove_iff (h : site.InOrder) (hp : preceding site.before = far ++ [c])
    (hc : c.comment?.isSome) :
    [c] <:+ blockAbove site ↔ EndsBy c site.row ∧ ¬ Trailing far c := by
  rw [suffix_blockAbove_iff h hp hc]
  simp [hc]

theorem blockAbove_eq_nil_or (hp : preceding site.before = far ++ [c]) :
    blockAbove site = [] ∨ [c] <:+ blockAbove site := by
  rcases (blockAbove site).eq_nil_or_concat with hn | ⟨block, d, hb⟩
  · exact .inl hn
  · obtain ⟨r, hr⟩ := blockAbove_suffix site
    rw [hb, hp, List.concat_eq_append, ← List.append_assoc] at hr
    obtain rfl : d = c := List.singleton_inj.mp (List.append_inj' hr rfl).2
    exact .inr ⟨block, by rw [hb, List.concat_eq_append]⟩

theorem above_eq_nil (h : blockAbove site = []) : above site.row site.before = [] := by
  rw [above_eq_blockAbove, h]
  rfl

theorem above_eq_nil_of_nearest (hp : preceding site.before = far ++ [c])
    (hc : ¬ [c] <:+ blockAbove site) : above site.row site.before = [] :=
  above_eq_nil ((blockAbove_eq_nil_or hp).resolve_right hc)

theorem endRow_le_of_nearest (h : site.InOrder) (hp : preceding site.before = far ++ [c]) :
    c.endRow ≤ site.row := by
  have hc := ne_terminator_of_mem_preceding (hp ▸ by simp : c ∈ preceding site.before)
  have ho := ordered_of_suffix h ⟨far, hp.symm⟩
  rw [List.reverse_singleton, Sibling.spans_singleton hc] at ho
  exact ho.2.2.1

theorem documented_of_inOrder (h : site.InOrder) :
    Documented site (above site.row site.before) where
  undocumented hn := by
    rcases (preceding site.before).eq_nil_or_concat with hp | ⟨far, s, hp⟩
    · exact above_eq_nil (List.suffix_nil.mp (hp ▸ blockAbove_suffix site))
    · rw [List.concat_eq_append] at hp
      refine above_eq_nil_of_nearest hp fun hs => ?_
      have hsome := comment_of_mem_blockAbove (hs.subset List.mem_cons_self)
      simp [hn s (by simp [hp])] at hsome
  located far c hp _ := by
    have hle := endRow_le_of_nearest h hp
    unfold EndsBy
    omega
  detached far c hp hc hrow := by
    refine above_eq_nil_of_nearest hp fun hs => ?_
    obtain ⟨hend, -⟩ := (nearest_mem_blockAbove_iff h hp hc).mp hs
    unfold EndsBy at hend
    omega
  trailing far c hp hc ht :=
    above_eq_nil_of_nearest hp fun hs => ((nearest_mem_blockAbove_iff h hp hc).mp hs).2 ht
  attached far c hp hc hend ht := by
    obtain ⟨r, hr⟩ := (nearest_mem_blockAbove_iff h hp hc).mpr ⟨hend, ht⟩
    refine ⟨blockAbove site, ?_, hp ▸ longestBlock_blockAbove h hp hend, above_eq_blockAbove site⟩
    rw [← hr, List.getLast?_concat]

end Doc

/-- Each doc of a package is what the comments nearest to its site make of it. -/
theorem documented_of_file {parse : TreeParser} {bytes : List UInt8} {filename : Text}
    {p : PackageDecl} (ho : (parse bytes).root.InOrder)
    (h : (declarationParser parse filename bytes).outcome = .ok p) :
    ∃ chars, Utf8.decode bytes = .ok chars ∧
      DocsHave Doc.Documented (chars.map .scalar) (parse bytes).root p :=
  docsHave_of_outcome ho (fun _ => Doc.documented_of_inOrder) h

namespace SameRow

/-- The comment stands on the row of the field. -/
def text : String := "package p\n\ntype T struct \x7b\n\t/* A. */ A int\n\x7d\n"

def source : List UInt8 := text.toUTF8.data.toList

def declared : PackageDecl := {
  name := "p"
  types := [{ name := "T", kind := structKind, fields := some [
    { names := ["A"], doc := " A.", type := "int" }] }] }

def comment : Sibling := ⟨.comment "/* A. */", 3, 3⟩

def site : Doc.Site := ⟨3, [comment, ⟨.other, 2, 2⟩]⟩

theorem fieldSites_source :
    fieldSites (Text.ofString text) (readTree source).root = [site] := by
  decide +kernel

theorem outcome_source : (readPackage "p.go" source).outcome = .ok declared := by
  decide +kernel

theorem block_of_field : (readPackage "p.go" source).outcome = .ok declared ∧
    (readTree source).root.InOrder ∧ ∃ block, block.getLast? = some comment ∧
      Doc.LongestBlock (Doc.preceding site.before) block ∧
      " A." = Comment.groupText (block.filterMap Sibling.comment?) := by
  have horder : (readTree source).root.InOrder := by decide +kernel
  have hdocs := docsHave_of_string (documented_of_file horder outcome_source)
  have hfields : List.Forall₂ Doc.Documented [site] [" A."] := fieldSites_source ▸ hdocs.fields
  obtain _ | ⟨hdoc, -⟩ := hfields
  have hleading : ¬ Doc.Trailing [⟨.other, 2, 2⟩] comment := by
    simp [Doc.Trailing, comment]
  exact ⟨outcome_source, horder,
    hdoc.attached [⟨.other, 2, 2⟩] comment (by decide) rfl (.inl rfl) hleading⟩

/-- The doc of the field is the comment on its own row. -/
theorem not_always_above : (readPackage "p.go" source).outcome = .ok declared ∧
    ¬ DocsHave Doc.OnlyFromAbove (Text.ofString text) (readTree source).root declared := by
  refine ⟨outcome_source, fun hdocs => ?_⟩
  have hfields : List.Forall₂ Doc.OnlyFromAbove [site] [" A."] := fieldSites_source ▸ hdocs.fields
  obtain _ | ⟨hdoc, -⟩ := hfields
  exact absurd (hdoc [⟨.other, 2, 2⟩] comment (by decide) rfl (by decide)) (by decide)

end SameRow

end StructCli.Go
