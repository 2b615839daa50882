import StructCli.Report
import StructCli.Text.Casing

/-! # Settings

The tag key and the log level, from the environment. A value that is missing or blank gives the
default.
-/

namespace StructCli

/-- The values of the two variables that are read. -/
structure Environment where
  tagKey : Option Text := none
  logLevel : Option Text := none

structure Settings where
  tagKey : Text
  logLevel : Text
  deriving DecidableEq, Repr

namespace Settings

def orElse (t preset : Text) : Text := if t = [] then preset else t

def ofEnvironment (env : Environment) : Settings where
  tagKey := orElse (env.tagKey.elim [] Text.strip) "cliche"
  logLevel := orElse (Text.upper (env.logLevel.elim [] Text.strip)) "WARNING"

end Settings

/-- The least severity that is shown, as a number. -/
abbrev Threshold := Nat

namespace Severity

def rank : Severity → Nat
  | debug => 10
  | info => 20
  | warning => 30

end Severity

namespace Threshold

def ofName (name : Text) : Except Failure Threshold :=
  match [("NOTSET", 0), ("DEBUG", 10), ("INFO", 20), ("WARN", 30), ("WARNING", 30), ("ERROR", 40),
      ("FATAL", 50), ("CRITICAL", 50)].find? fun p => Text.ofString p.1 = name with
  | some p => .ok p.2
  | none => .error (.unknownLevel name)

end Threshold

end StructCli
