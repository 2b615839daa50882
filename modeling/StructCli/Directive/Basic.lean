import StructCli.Text.Quoted

/-! # Directives

A tag carries up to three directives: the position that an input takes among the arguments, its
default value, and the flag that sets it. Here are their values and their written forms.
-/

namespace StructCli

inductive DirectiveKind where
  | arg
  | default
  | flag
  deriving DecidableEq, Repr

namespace DirectiveKind

def all : List DirectiveKind := [arg, default, flag]

def label : DirectiveKind → Text
  | arg => "arg"
  | default => "default"
  | flag => "flag"

def marker (k : DirectiveKind) : Text := k.label ++ ":"

end DirectiveKind

/-- The raw values of a tag's directives. The empty text stands for absence. -/
structure Directives where
  arg : Text := []
  default : Text := []
  flag : Text := []
  deriving DecidableEq, Repr

namespace Directives

def get (d : Directives) : DirectiveKind → Text
  | .arg => d.arg
  | .default => d.default
  | .flag => d.flag

def set (d : Directives) (v : Text) : DirectiveKind → Directives
  | .arg => { d with arg := v }
  | .default => { d with default := v }
  | .flag => { d with flag := v }

/-- The directives that are present, in the order arg, default, flag. -/
def render (d : Directives) : Text :=
  Text.joinWith ";" ((DirectiveKind.all.filter fun k => d.get k ≠ []).map fun k =>
    k.marker ++ d.get k)

end Directives

/-- The arguments that an input takes, from `start` on and before `stop`. A position is a range
that stops where it starts; a range without `stop` takes all arguments that are left. -/
structure ArgSpec where
  start : Nat
  stop : Option Nat
  deriving DecidableEq, Repr

namespace ArgSpec

def position (n : Nat) : ArgSpec := ⟨n, some n⟩

def isRange (a : ArgSpec) : Bool := a.stop ≠ some a.start

def isUnbounded (a : ArgSpec) : Bool := a.stop.isNone

/-- The end of a range as an integer, `-1` where there is none. -/
def stopIndex (a : ArgSpec) : Int :=
  match a.stop with
  | some n => n
  | none => -1

inductive Bound where
  | start
  | stop
  deriving DecidableEq, Repr

def Bound.label : Bound → Text
  | start => "start"
  | stop => "end"

/-- The range with the given bounds, or the bounds that are too small. -/
def ofBounds (start stop : Int) : Except (List Bound) ArgSpec :=
  match (if start < 0 then [Bound.start] else []) ++ if stop < -1 then [Bound.stop] else [] with
  | [] => .ok ⟨start.toNat, if stop = -1 then none else some stop.toNat⟩
  | faults => .error faults

def render (a : ArgSpec) : Text :=
  if !a.isRange then "arg:" ++ Text.ofNat a.start
  else match a.stop with
    | some stop => "arg:[" ++ Text.ofNat a.start ++ ":" ++ Text.ofNat stop ++ "]"
    | none => if a.start = 0 then "arg:[:]" else "arg:[" ++ Text.ofNat a.start ++ ":]"

end ArgSpec

/-- The names of a flag. The empty text stands for the absence of a short name. -/
structure FlagSpec where
  long : Text
  short : Text := []
  deriving DecidableEq, Repr

namespace FlagSpec

def posixy (f : FlagSpec) : Bool := f.long ≠ [] && f.short.length == 1

def render (f : FlagSpec) : Text :=
  if f.posixy then "flag:" ++ f.long ++ "," ++ f.short else "flag:" ++ f.long

def describe (f : FlagSpec) : Text :=
  "FlagSpec(long=" ++ Text.quoted f.long ++ ", short=" ++ Text.quoted f.short ++ ")"

end FlagSpec

end StructCli
