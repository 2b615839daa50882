import StructCli.Text.Basic

/-! # Command-line arguments

Options have a long name, and some a single letter. An option that takes a value takes it after an
equals sign, from the rest of its cluster of letters, or from the next argument.
-/

namespace StructCli.Shell

/-- An option under the key that its settings carry. -/
structure OptionSpec (κ : Type) where
  key : κ
  long : String
  short : Option Char := none
  takesValue : Bool := true

/-- Settings of options in the order of the arguments, and the other arguments. -/
structure Parsed (κ : Type) where
  settings : List (κ × Text) := []
  operands : List Text := []

namespace Parsed

variable {κ : Type}

def addSettings (ss : List (κ × Text)) (p : Parsed κ) : Parsed κ :=
  { p with settings := ss ++ p.settings }

def addOperand (t : Text) (p : Parsed κ) : Parsed κ := { p with operands := t :: p.operands }

def last? [BEq κ] (p : Parsed κ) (k : κ) : Option Text := p.settings.reverse.lookup k

end Parsed

variable {κ : Type}

/-- Reads a cluster of letters: settings, and an option that still needs its value. -/
def readCluster (specs : List (OptionSpec κ)) : Text → Option (List (κ × Text) × Option κ)
  | [] => some ([], none)
  | .surrogate _ :: _ => none
  | .scalar c :: r => do
    let spec ← specs.find? (·.short == some c)
    if spec.takesValue then
      return if r = [] then ([], some spec.key) else ([(spec.key, r)], none)
    else
      let (ss, pending) ← readCluster specs r
      return ((spec.key, []) :: ss, pending)

def readLong (specs : List (OptionSpec κ)) (t : Text) : Option (List (κ × Text) × Option κ) := do
  let label := t.takeWhile (· ≠ .scalar '=')
  let spec ← specs.find? fun s => Text.ofString s.long = label
  match t.drop label.length with
  | [] => return if spec.takesValue then ([], some spec.key) else ([(spec.key, [])], none)
  | _ :: value => if spec.takesValue then return ([(spec.key, value)], none) else failure

inductive Argument (κ : Type) where
  | operand
  | endOfOptions
  | options (read : Option (List (κ × Text) × Option κ))

def classify (specs : List (OptionSpec κ)) : Text → Argument κ
  | [.scalar '-', .scalar '-'] => .endOfOptions
  | .scalar '-' :: .scalar '-' :: r => .options (readLong specs r)
  | .scalar '-' :: c :: r => .options (readCluster specs (c :: r))
  | _ => .operand

/-- Reads arguments. Where options may not follow operands, everything from the first operand on
is an operand. -/
def parseArguments (specs : List (OptionSpec κ)) (interspersed : Bool) :
    List Text → Option (Parsed κ)
  | [] => some {}
  | arg :: rest =>
    match classify specs arg with
    | .endOfOptions => some { operands := rest }
    | .operand =>
      if interspersed then (parseArguments specs interspersed rest).map (·.addOperand arg)
      else some { operands := arg :: rest }
    | .options none => none
    | .options (some (ss, none)) =>
      (parseArguments specs interspersed rest).map (·.addSettings ss)
    | .options (some (ss, some key)) =>
      match rest with
      | [] => none
      | value :: rest =>
        (parseArguments specs interspersed rest).map (·.addSettings (ss ++ [(key, value)]))

end StructCli.Shell
