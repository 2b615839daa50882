import StructCli.Go.Tree

/-! # Sketches

A sketch says how a source falls into phrases, tokens and blanks. It leaves open what a token is
made of, and whether the end of a line that closes a phrase is a token. A list of nodes that fits a
sketch stands where the sketch says, and so the texts of its nodes are those of the sketch.
-/

namespace StructCli.Go

inductive Sketch where
  | blank (text : Text)
  | lineEnd
  | token (label : Option Text) (kind : Text) (named : Bool) (text : Text)
  | phrase (label : Option Text) (kind : Text) (parts : List Sketch)

namespace Sketch

mutual

def text : Sketch → Text
  | blank t => t
  | lineEnd => "\n"
  | token _ _ _ t => t
  | phrase _ _ parts => texts parts

def texts : List Sketch → Text
  | [] => []
  | part :: parts => text part ++ texts parts

end

@[simp] theorem texts_append (a b : List Sketch) : texts (a ++ b) = texts a ++ texts b := by
  induction a with
  | nil => rfl
  | cons part a ih => simp [texts, ih]

theorem texts_flatMap {α : Type} (f : α → List Sketch) (l : List α) :
    texts (l.flatMap f) = l.flatMap fun a => texts (f a) := by
  induction l with
  | nil => rfl
  | cons a l ih => simp [ih]

end Sketch

open Sketch

/-- The node stands for a text that comes after another one. -/
structure Node.Covers (before text : Text) (n : Node) : Prop where
  start : n.start = before.utf8Size
  stop : n.stop = (before ++ text).utf8Size
  row : n.row = before.lineFeeds
  endRow : n.endRow = (before ++ text).lineFeeds

/-- The nodes are those of some parts of a source that come after a text. -/
inductive Fits : Text → List Sketch → List Node → Prop where

  | nil (before : Text) : Fits before [] []

  | blank {before text : Text} {parts : List Sketch} {nodes : List Node} :
      Fits (before ++ text) parts nodes → Fits before (.blank text :: parts) nodes

  | lineEnd {before : Text} {parts : List Sketch} {nodes : List Node} :
      Fits (before ++ "\n") parts nodes → Fits before (.lineEnd :: parts) nodes

  | lineEndNode {before : Text} {parts : List Sketch} {n : Node} {nodes : List Node} :
      n.named = false → n.kind = "\n" → n.Covers before "\n" → Fits (before ++ "\n") parts nodes →
      Fits before (.lineEnd :: parts) (n :: nodes)

  | token {before kind text : Text} {label : Option Text} {named : Bool} {parts : List Sketch}
      {n : Node} {nodes : List Node} :
      n.label = label → n.kind = kind → n.named = named → n.Covers before text →
      Fits (before ++ text) parts nodes →
      Fits before (.token label kind named text :: parts) (n :: nodes)

  | phrase {before kind : Text} {label : Option Text} {inner parts : List Sketch} {n : Node}
      {nodes : List Node} :
      n.label = label → n.kind = kind → n.named = true → n.Covers before (texts inner) →
      Fits before inner n.children → Fits (before ++ texts inner) parts nodes →
      Fits before (.phrase label kind inner :: parts) (n :: nodes)

variable {before after text source kind : Text} {label : Option Text} {named : Bool} {n : Node}
  {nodes : List Node} {parts inner more : List Sketch}

/-! ## Texts of nodes -/

theorem CodePoint.utf8Size_pos (c : CodePoint) : 0 < c.utf8Size := by
  cases c with
  | scalar c => exact c.utf8Size_pos
  | surrogate half => exact Nat.zero_lt_succ 2

@[simp] theorem utf8Size_append (a b : Text) : (a ++ b).utf8Size = a.utf8Size + b.utf8Size := by
  induction a with
  | nil => exact (Nat.zero_add _).symm
  | cons c a ih => simp [Text.utf8Size, ih, Nat.add_assoc]

@[simp] theorem lineFeeds_append (a b : Text) :
    (a ++ b).lineFeeds = a.lineFeeds + b.lineFeeds := List.count_append

theorem dropBytes_append (a b : Text) : Text.dropBytes a.utf8Size (a ++ b) = b := by
  induction a with
  | nil => cases b <;> rfl
  | cons c a ih =>
    have hc := CodePoint.utf8Size_pos c
    rw [List.cons_append, Text.utf8Size, Text.dropBytes, if_neg (by omega), Nat.add_sub_cancel_left]
    exact ih

theorem takeBytes_append (a b : Text) : Text.takeBytes a.utf8Size (a ++ b) = a := by
  induction a with
  | nil => cases b <;> rfl
  | cons c a ih =>
    have hc := CodePoint.utf8Size_pos c
    rw [List.cons_append, Text.utf8Size, Text.takeBytes, if_neg (by omega), Nat.add_sub_cancel_left,
      ih]

theorem slice_append (before text after : Text) :
    (before ++ text ++ after).slice before.utf8Size (before ++ text).utf8Size = text := by
  rw [Text.slice, List.append_assoc, dropBytes_append, utf8Size_append, Nat.add_sub_cancel_left,
    takeBytes_append]

theorem Node.Covers.text_eq (h : n.Covers before text) (after : Text) :
    n.text (before ++ text ++ after) = text := by
  rw [Node.text, h.start, h.stop, slice_append]

/-! ## Nodes of parts -/

theorem fits_nil (h : Fits before [] nodes) : nodes = [] := by
  cases h
  rfl

theorem fits_blank (h : Fits before (.blank text :: parts) nodes) :
    Fits (before ++ text) parts nodes := by
  cases h with
  | blank h => exact h

theorem fits_token (h : Fits before (.token label kind named text :: parts) nodes) :
    ∃ n rest, nodes = n :: rest ∧ n.label = label ∧ n.kind = kind ∧ n.named = named ∧
      n.Covers before text ∧ Fits (before ++ text) parts rest := by
  cases h with
  | token hl hk hn hc h => exact ⟨_, _, rfl, hl, hk, hn, hc, h⟩

theorem fits_phrase (h : Fits before (.phrase label kind inner :: parts) nodes) :
    ∃ n rest, nodes = n :: rest ∧ n.label = label ∧ n.kind = kind ∧ n.named = true ∧
      n.Covers before (texts inner) ∧ Fits before inner n.children ∧
      Fits (before ++ texts inner) parts rest := by
  cases h with
  | phrase hl hk hn hc hi h => exact ⟨_, _, rfl, hl, hk, hn, hc, hi, h⟩

theorem fits_append (h : Fits before (parts ++ more) nodes) :
    ∃ l r, nodes = l ++ r ∧ Fits before parts l ∧ Fits (before ++ texts parts) more r := by
  induction parts generalizing before nodes with
  | nil => exact ⟨[], nodes, rfl, .nil before, by simpa [texts] using h⟩
  | cons part parts ih =>
    cases h with
    | blank h =>
      obtain ⟨l, r, rfl, hl, hr⟩ := ih h
      exact ⟨l, r, rfl, .blank hl, by simpa [texts, Sketch.text] using hr⟩
    | lineEnd h =>
      obtain ⟨l, r, rfl, hl, hr⟩ := ih h
      exact ⟨l, r, rfl, .lineEnd hl, by simpa [texts, Sketch.text] using hr⟩
    | lineEndNode hn hk hc h =>
      obtain ⟨l, r, rfl, hl, hr⟩ := ih h
      exact ⟨_ :: l, r, rfl, .lineEndNode hn hk hc hl, by simpa [texts, Sketch.text] using hr⟩
    | token hlabel hk hn hc h =>
      obtain ⟨l, r, rfl, hl, hr⟩ := ih h
      exact ⟨_ :: l, r, rfl, .token hlabel hk hn hc hl, by simpa [texts, Sketch.text] using hr⟩
    | phrase hlabel hk hn hc hi h =>
      obtain ⟨l, r, rfl, hl, hr⟩ := ih h
      exact ⟨_ :: l, r, rfl, .phrase hlabel hk hn hc hi hl,
        by simpa [texts, Sketch.text] using hr⟩

theorem isTerminator_of_fits_lineEnd (h : Fits before [.lineEnd] nodes) :
    ∀ n ∈ nodes, n.isTerminator = true := by
  cases h with
  | lineEnd h => simp [fits_nil h]
  | lineEndNode hn hk _ h => simp [fits_nil h, Node.isTerminator, hn, hk]

/-- Some nodes stand one after the other, between two positions. -/
structure Apart (first last : Nat) (nodes : List Node) : Prop where
  pairwise : nodes.Pairwise fun n m => n.stop ≤ m.start
  within : ∀ n ∈ nodes, first ≤ n.start ∧ n.start ≤ n.stop ∧ n.stop ≤ last

theorem Apart.mono {first first' last : Nat} (h : Apart first' last nodes) (hf : first ≤ first') :
    Apart first last nodes :=
  ⟨h.pairwise, fun n hn => ⟨Nat.le_trans hf (h.within n hn).1, (h.within n hn).2⟩⟩

theorem Apart.cons {last : Nat} (hc : n.Covers before text)
    (h : Apart (before ++ text).utf8Size last nodes) (hl : (before ++ text).utf8Size ≤ last) :
    Apart before.utf8Size last (n :: nodes) := by
  have hstart := hc.start
  have hstop := hc.stop
  rw [utf8Size_append] at h hl hstop
  refine ⟨List.pairwise_cons.mpr ⟨fun m hm => ?_, h.pairwise⟩, fun m hm => ?_⟩
  · exact hstop ▸ (h.within m hm).1
  · rcases List.mem_cons.mp hm with rfl | hm
    · omega
    · obtain ⟨hf, hrest⟩ := h.within m hm
      exact ⟨by omega, hrest⟩

theorem apart_of_fits (h : Fits before parts nodes) :
    Apart before.utf8Size (before ++ texts parts).utf8Size nodes := by
  have hle : ∀ a b : Text, a.utf8Size ≤ (a ++ b).utf8Size := fun a b => by simp
  induction h with
  | nil => exact ⟨.nil, nofun⟩
  | blank _ ih =>
    rw [texts, Sketch.text, ← List.append_assoc]
    exact ih.mono (hle _ _)
  | lineEnd _ ih =>
    rw [texts, Sketch.text, ← List.append_assoc]
    exact ih.mono (hle _ _)
  | lineEndNode _ _ hc _ ih =>
    rw [texts, Sketch.text, ← List.append_assoc]
    exact ih.cons hc (hle _ _)
  | token _ _ _ hc _ ih =>
    rw [texts, Sketch.text, ← List.append_assoc]
    exact ih.cons hc (hle _ _)
  | phrase _ _ _ hc _ _ _ ih =>
    rw [texts, Sketch.text, ← List.append_assoc]
    exact ih.cons hc (hle _ _)

/-! ## Deciding whether nodes fit -/

theorem covers_iff : n.Covers before text ↔ n.start = before.utf8Size ∧
    n.stop = (before ++ text).utf8Size ∧ n.row = before.lineFeeds ∧
      n.endRow = (before ++ text).lineFeeds :=
  ⟨fun h => ⟨h.start, h.stop, h.row, h.endRow⟩, fun ⟨hs, ht, hr, he⟩ => ⟨hs, ht, hr, he⟩⟩

instance (before text : Text) (n : Node) : Decidable (n.Covers before text) :=
  decidable_of_iff _ covers_iff.symm

mutual

/-- What may be left of the nodes below a part. The end of a line leaves a choice. -/
def Sketch.rests (before : Text) : Sketch → List Node → List (List Node)
  | blank _, nodes => [nodes]
  | lineEnd, [] => [[]]
  | lineEnd, n :: nodes =>
    (n :: nodes) ::
      if n.named = false ∧ n.kind = "\n" ∧ n.Covers before "\n" then [nodes] else []
  | token label kind named text, n :: nodes =>
    if n.label = label ∧ n.kind = kind ∧ n.named = named ∧ n.Covers before text then [nodes] else []
  | phrase label kind inner, n :: nodes =>
    if n.label = label ∧ n.kind = kind ∧ n.named = true ∧ n.Covers before (texts inner) ∧
      fitsB before inner n.children then [nodes] else []
  | _, [] => []

def fitsB (before : Text) : List Sketch → List Node → Bool
  | [], nodes => nodes.isEmpty
  | part :: parts, nodes => (part.rests before nodes).any (fitsB (before ++ part.text) parts)

end

mutual

theorem fits_cons_of_mem_rests {before : Text} {parts : List Sketch} {nodes rest : List Node} :
    ∀ part : Sketch, rest ∈ part.rests before nodes → Fits (before ++ part.text) parts rest →
      Fits before (part :: parts) nodes
  | .blank _, hr, h => by
    rw [Sketch.rests, List.mem_singleton] at hr
    exact .blank (hr ▸ h)
  | .lineEnd, hr, h => by
    cases nodes with
    | nil =>
      rw [Sketch.rests, List.mem_singleton] at hr
      exact .lineEnd (hr ▸ h)
    | cons n nodes =>
      rw [Sketch.rests, List.mem_cons] at hr
      obtain rfl | hr := hr
      · exact .lineEnd h
      · obtain ⟨⟨hn, hk, hc⟩, rfl⟩ : _ ∧ rest = nodes := by simpa using hr
        exact .lineEndNode hn hk hc h
  | .token _ _ _ _, hr, h => by
    cases nodes with
    | nil => simp [Sketch.rests] at hr
    | cons n nodes =>
      obtain ⟨⟨hl, hk, hn, hc⟩, rfl⟩ : _ ∧ rest = nodes := by simpa [Sketch.rests] using hr
      exact .token hl hk hn hc h
  | .phrase _ _ inner, hr, h => by
    cases nodes with
    | nil => simp [Sketch.rests] at hr
    | cons n nodes =>
      obtain ⟨⟨hl, hk, hn, hc, hi⟩, rfl⟩ : _ ∧ rest = nodes := by simpa [Sketch.rests] using hr
      exact .phrase hl hk hn hc (fits_of_fitsB inner hi) h

theorem fits_of_fitsB {before : Text} {nodes : List Node} :
    ∀ parts : List Sketch, fitsB before parts nodes = true → Fits before parts nodes
  | [], h => by
    rw [fitsB, List.isEmpty_iff] at h
    exact h ▸ .nil before
  | part :: parts, h => by
    rw [fitsB, List.any_eq_true] at h
    obtain ⟨rest, hr, h⟩ := h
    exact fits_cons_of_mem_rests part hr (fits_of_fitsB parts h)

end

theorem fitsB_iff : fitsB before parts nodes = true ↔ Fits before parts nodes := by
  refine ⟨fits_of_fitsB parts, fun h => ?_⟩
  induction h with
  | nil => rfl
  | blank _ ih => simp [fitsB, Sketch.rests, Sketch.text, ih]
  | @lineEnd _ _ nodes _ ih => cases nodes <;> simp [fitsB, Sketch.rests, Sketch.text, ih]
  | lineEndNode hn hk hc _ ih => simp [fitsB, Sketch.rests, Sketch.text, hn, hk, hc, ih]
  | token hl hk hn hc _ ih => simp [fitsB, Sketch.rests, Sketch.text, hl, hk, hn, hc, ih]
  | phrase hl hk hn hc _ _ hi ih =>
    simp [fitsB, Sketch.rests, Sketch.text, hl, hk, hn, hc, hi, ih]

instance (before : Text) (parts : List Sketch) (nodes : List Node) :
    Decidable (Fits before parts nodes) := decidable_of_iff _ fitsB_iff

end StructCli.Go
