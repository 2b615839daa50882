import StructCli.Text.Basic

/-! # Paths

A path is a root and a list of parts. Empty parts and parts that are a single dot are left out.
-/

namespace StructCli

/-- The root of a path: none for a relative one, else one or two slashes. -/
inductive PathRoot where
  | relative
  | slash
  | doubleSlash
  deriving DecidableEq, Repr

def PathRoot.text : PathRoot → Text
  | relative => []
  | slash => "/"
  | doubleSlash => "//"

structure Path where
  root : PathRoot
  parts : List Text
  deriving DecidableEq, Repr

namespace Path

def rootOf (t : Text) : PathRoot :=
  match (t.takeWhile (· = .scalar '/')).length with
  | 0 => .relative
  | 2 => .doubleSlash
  | _ => .slash

/-- Reads a path. Exactly two leading slashes are a root of their own. -/
def ofText (t : Text) : Path :=
  ⟨rootOf t, (Text.splitAt (.scalar '/') t).filter fun p => p ≠ [] ∧ p ≠ [.scalar '.']⟩

/-- The written form of a path. The empty relative path is written as a dot. -/
def render (p : Path) : Text :=
  match p.root.text ++ Text.joinWith "/" p.parts with
  | [] => "."
  | t => t

def name (p : Path) : Text := p.parts.getLast?.getD []

/-- The part of a name from its last dot on. A dot at either end of the name begins no suffix. -/
def suffix (p : Path) : Text :=
  let back := p.name.reverse.takeWhile (· ≠ .scalar '.')
  if back ≠ [] ∧ back.length + 1 < p.name.length then .scalar '.' :: back.reverse else []

end Path

end StructCli
