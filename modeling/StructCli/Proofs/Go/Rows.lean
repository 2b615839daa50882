import StructCli.Go.Tree

/-! # Rows in order

Things that stand one after the other in a source start and end on rows in order. So do the nodes
of a syntax tree that have one parent, and what stands beside a site of a doc.
-/

namespace StructCli.Go

abbrev RowSpan := Nat × Nat

namespace RowSpan

/-- The first span starts no earlier than `row`, and each one no earlier than the one before
ends. -/
def Ordered : Nat → List RowSpan → Prop
  | _, [] => True
  | row, (first, last) :: spans => row ≤ first ∧ first ≤ last ∧ Ordered last spans

instance : ∀ (row : Nat) (spans : List RowSpan), Decidable (Ordered row spans)
  | _, [] => inferInstanceAs (Decidable True)
  | row, (first, last) :: spans =>
    have := instDecidableOrdered last spans
    inferInstanceAs (Decidable (row ≤ first ∧ first ≤ last ∧ Ordered last spans))

def lastRow : Nat → List RowSpan → Nat
  | row, [] => row
  | _, (_, last) :: spans => lastRow last spans

variable {row row' : Nat} {a b : List RowSpan}

theorem Ordered.mono (h : Ordered row a) (hr : row' ≤ row) : Ordered row' a := by
  cases a with
  | nil => trivial
  | cons s a => exact ⟨Nat.le_trans hr h.1, h.2⟩

theorem Ordered.sublist (h : Ordered row b) (hs : a.Sublist b) : Ordered row a := by
  induction hs generalizing row with
  | slnil => trivial
  | cons s _ ih => exact ih (h.2.2.mono (Nat.le_trans h.1 h.2.1))
  | cons_cons s _ ih => exact ⟨h.1, h.2.1, ih h.2.2⟩

theorem ordered_append : Ordered row (a ++ b) ↔ Ordered row a ∧ Ordered (lastRow row a) b := by
  induction a generalizing row with
  | nil => simp [Ordered, lastRow]
  | cons s a ih =>
    obtain ⟨first, last⟩ := s
    simp only [List.cons_append, Ordered, lastRow, ih, and_assoc]

theorem Ordered.le_lastRow (h : Ordered row a) : row ≤ lastRow row a := by
  induction a generalizing row with
  | nil => exact Nat.le_refl _
  | cons s a ih => exact Nat.le_trans (Nat.le_trans h.1 h.2.1) (ih h.2.2)

theorem Ordered.last_le (h : Ordered row a) : ∀ s ∈ a, s.2 ≤ lastRow row a := by
  induction a generalizing row with
  | nil => exact fun _ hs => absurd hs List.not_mem_nil
  | cons s a ih =>
    intro u hu
    rcases List.mem_cons.mp hu with rfl | hu
    · exact h.2.2.le_lastRow
    · exact ih h.2.2 u hu

end RowSpan

open RowSpan

namespace Sibling

/-- The spans of some siblings other than terminators, the last sibling of which comes first. -/
def spans (before : List Sibling) : List RowSpan :=
  before.reverse.filterMap fun s =>
    match s.kind with
    | .terminator => none
    | _ => some (s.row, s.endRow)

theorem spans_append (a b : List Sibling) : spans (a ++ b) = spans b ++ spans a := by
  simp only [spans, List.reverse_append, List.filterMap_append]

theorem spans_cons (s : Sibling) (before : List Sibling) :
    spans (s :: before) = spans before ++ spans [s] := spans_append [s] before

theorem spans_singleton {s : Sibling} (h : s.kind ≠ .terminator) :
    spans [s] = [(s.row, s.endRow)] := by
  cases hk : s.kind <;> simp_all [spans]

theorem mem_spans {s : Sibling} {before : List Sibling} (hs : s ∈ before)
    (h : s.kind ≠ .terminator) : (s.row, s.endRow) ∈ spans before := by
  refine List.mem_filterMap.mpr ⟨s, List.mem_reverse.mpr hs, ?_⟩
  cases hk : s.kind <;> simp_all

theorem spans_sublist (before : List Sibling) :
    (spans before).Sublist (before.reverse.map fun s => (s.row, s.endRow)) := by
  rw [spans, ← List.filterMap_eq_map]
  generalize before.reverse = l
  induction l with
  | nil => exact .slnil
  | cons s l ih =>
    cases hk : s.kind with
    | terminator => simpa [hk] using ih.cons (s.row, s.endRow)
    | comment _ => simpa [hk] using ih
    | other => simpa [hk] using ih

end Sibling

/-- What stands before the site starts and ends in order, and ends no later than the site starts. -/
def Doc.Site.InOrder (site : Doc.Site) : Prop :=
  Ordered 0 (Sibling.spans site.before ++ [(site.row, site.row)])

namespace Node

def rows (n : Node) : RowSpan := (n.row, n.endRow)

mutual

def subtree : Node → List Node
  | ⟨e, kind, named, label, children⟩ => ⟨e, kind, named, label, children⟩ :: subtrees children

def subtrees : List Node → List Node
  | [] => []
  | n :: ns => subtree n ++ subtrees ns

end

/-- Everywhere in the tree, the nodes with one parent stand one after the other. -/
def InOrder (root : Node) : Prop := ∀ n ∈ root.subtree, Ordered 0 (n.children.map rows)

instance (root : Node) : Decidable root.InOrder :=
  inferInstanceAs (Decidable (∀ n ∈ root.subtree, Ordered 0 (n.children.map rows)))

variable {n c root : Node} {ns : List Node}

theorem subtree_eq (n : Node) : n.subtree = n :: subtrees n.children := by
  cases n
  rw [subtree]

theorem mem_subtrees : c ∈ subtrees ns ↔ ∃ n ∈ ns, c ∈ n.subtree := by
  induction ns with
  | nil => simp [subtrees]
  | cons n ns ih => simp [subtrees, ih]

theorem InOrder.children (h : root.InOrder) : Ordered 0 (root.children.map rows) :=
  h root (subtree_eq root ▸ List.mem_cons_self)

theorem InOrder.child (h : root.InOrder) (hc : c ∈ root.children) : c.InOrder := by
  intro n hn
  refine h n ?_
  rw [subtree_eq]
  exact List.mem_cons_of_mem _ (mem_subtrees.mpr ⟨c, hc, hn⟩)

end Node

namespace Placed

variable {p : Placed} {before ns ms : List Node}

theorem ofSiblings_append (before ns ms : List Node) :
    ofSiblings before (ns ++ ms) = ofSiblings before ns ++ ofSiblings (ns.reverse ++ before) ms := by
  induction ns generalizing before with
  | nil => rfl
  | cons n ns ih => simp [ofSiblings, ih]

theorem mem_ofSiblings (h : p ∈ ofSiblings before ns) :
    ∃ l r, ns = l ++ p.node :: r ∧ p.before = l.reverse ++ before := by
  induction ns generalizing before with
  | nil => exact absurd h List.not_mem_nil
  | cons n ns ih =>
    rcases List.mem_cons.mp h with rfl | h
    · exact ⟨[], ns, rfl, rfl⟩
    · obtain ⟨l, r, rfl, hb⟩ := ih h
      exact ⟨n :: l, r, rfl, by simp [hb]⟩

theorem mem_children_of_parts {kind : Text} {n : Node} (h : p ∈ n.parts kind) :
    p.node ∈ n.children := by
  obtain ⟨l, r, hn, -⟩ := mem_ofSiblings (List.mem_filter.mp h).1
  simp [hn]

/-- The site of a node is in order where its parent's children are. -/
theorem inOrder_site {kind : Text} {n : Node} (ho : n.InOrder) (h : p ∈ n.parts kind)
    (source : Text) : (p.site source).InOrder := by
  obtain ⟨l, r, hn, hb⟩ := mem_ofSiblings (List.mem_filter.mp h).1
  have horder := ho.children
  rw [hn, List.map_append, ordered_append] at horder
  obtain ⟨hl, hle, hrow, -⟩ := horder
  have hspans : (Sibling.spans (p.site source).before).Sublist (l.map Node.rows) := by
    have hrows : (p.site source).before.reverse.map (fun s => (s.row, s.endRow)) =
        l.map Node.rows := by
      simp [site, hb, Node.sibling, Node.rows]
    exact hrows ▸ Sibling.spans_sublist _
  have hsite : Ordered 0 (l.map Node.rows ++ [(p.node.row, p.node.row)]) :=
    ordered_append.mpr ⟨hl, hle, Nat.le_refl _, trivial⟩
  exact hsite.sublist (hspans.append (List.Sublist.refl _))

end Placed

end StructCli.Go
