import StructCli.Proofs.Command.Agreement
import StructCli.Proofs.Json.Reading
import StructCli.Proofs.Text.Pieces
import StructCli.Shell.Run

/-! # Output of a request

A request to compile in the JSON format writes the whole command to its standard output, or
nothing. What it writes there, and its exit code, follow from the command alone: the log does not
reach them.
-/

namespace StructCli

/-- The failures that are errors of value. Numbers that are too large, and types and files that are
not there, are failures of other kinds. -/
def Failure.IsValueError : Failure → Prop
  | .literal .overflow | .type .. | .fileNotFound _ => False
  | _ => True

namespace Text

theorem flatMap_lines (t : Text) : t.lines.flatMap (· ++ [.scalar '\n']) = t ++ [.scalar '\n'] := by
  unfold lines
  induction t with
  | nil => rfl
  | cons c t ih =>
    cases hp : splitAt (.scalar '\n') t with
    | nil => exact absurd hp (splitAt_ne_nil t)
    | cons p ps =>
      rw [hp] at ih
      by_cases hc : c = .scalar '\n' <;> simp [splitAt, hc, hp, ← ih]

theorem surrogateRun?_eq_none_iff {t : Text} {n : Nat} :
    t.surrogateRun? n = none ↔ ∀ half, .surrogate half ∉ t := by
  induction t generalizing n with
  | nil => simp [surrogateRun?]
  | cons c t ih =>
    cases c with
    | scalar c => simp [surrogateRun?, ih]
    | surrogate half =>
      simp only [surrogateRun?, reduceCtorEq, false_iff]
      exact fun h => h half (by simp)

theorem findSome?_surrogateRun?_iff {ts : List Text} :
    ts.findSome? (surrogateRun? 0) = none ↔ ∀ t ∈ ts, ∀ half, .surrogate half ∉ t := by
  simp only [List.findSome?_eq_none_iff, surrogateRun?_eq_none_iff]

end Text

namespace Shell

/-- The exit code of a run. A failure that escapes has none. -/
def Result.exitCode? : Result → Option Nat
  | .finished o => some o.code
  | .refused => some 2
  | .failed _ => none

def Result.written : Result → Text
  | .finished o => o.stdout.flatMap (· ++ [.scalar '\n'])
  | _ => []

def Format.label : Format → Text
  | .json => "json"
  | .table => "table"

def CompileRequest.command (r : CompileRequest) (env : Environment) (read : FileReader)
    (parse : Go.TreeParser) : Report (Option Command) :=
  Command.ofFile read (Path.ofText r.path) (Path.ofText r.path).render r.typeName r.language
    (r.tagKey.getD (Settings.ofEnvironment env).tagKey) parse

def setting (name : String) (value : Text) : List Text := ["--" ++ name, value]

def CompileRequest.arguments (r : CompileRequest) (verbose : Bool) : List Text :=
  let options := setting "type" r.typeName ++ setting "format" r.format.label ++
    r.language.elim [] (setting "language") ++ r.tagKey.elim [] (setting "tag-key")
  let compile := Text.ofString "compile" :: options ++ [Text.ofString "--", r.path]
  if verbose then "--verbose" :: compile else compile

/-- The arguments ask for a command, in a verbose run or in one that is not. -/
def Asks (platform : Platform) (arguments : List Text) (verbose : Bool) (r : CompileRequest) :
    Prop :=
  ∃ p, platform.preamble? arguments = some p ∧ p.verbose = verbose ∧
    platform.request? p = some (.compile r)

/-- A log level that is missing, blank or known. -/
def ValidLevel (level : Option Text) : Prop :=
  ∃ t, Threshold.ofName (Settings.ofEnvironment { logLevel := level }).logLevel = .ok t

variable {platform : Platform} {parse : Go.TreeParser} {r : CompileRequest} {env : Environment}
  {read : FileReader} {arguments : List Text} {verbose : Bool} {level : Option Text}

theorem asks_arguments (r : CompileRequest) (verbose : Bool) :
    Asks {} (r.arguments verbose) verbose r := by
  obtain ⟨path, typeName, format, language, tagKey⟩ := r
  cases verbose <;> cases format <;> cases language <;> cases tagKey <;>
    exact ⟨_, rfl, rfl, rfl⟩

theorem isReported_of_fault {key : Text} {field : FieldDecl} {e : Failure}
    (h : FieldFault key field e) : e = .literal .overflow ∨ isReported e = true := by
  obtain ⟨-, _, -, h⟩ := h
  cases h with
  | literal => exact .inl rfl
  | value => exact .inl rfl
  | numeral => exact .inr rfl

theorem isReported_of_findSource {source : List UInt8} {filename typeName key : Text} {e : Failure}
    (h : (Command.findSource (Go.declarationParser parse) (.bytes source) filename typeName
      key).outcome = .error e) : e = .literal .overflow ∨ isReported e = true := by
  rw [Command.findSource, Command.loadSource_of_encode rfl] at h
  cases hp : (Go.declarationParser parse filename source).outcome with
  | error d =>
    have hd := Command.unparsable_of_declarationParser hp
    rw [Command.load_of_error hp] at h
    obtain ⟨hd', -, hs⟩ := Command.recover_eq_error_iff.mp h
    obtain ⟨_, _, rfl⟩ := hd
    exact absurd (Except.error.inj hd').symm (hs _ _)
  | ok package =>
    obtain ⟨_, _, _, -, -, hf⟩ :=
      Command.ofType_eq_error_iff.mp ((Command.find_eq_error_iff hp).mp h)
    exact isReported_of_fault hf

theorem isReported_of_ofPath {path : Path} {language : Option Text} {e : Failure}
    (h : Language.ofPath path language = .error e) : isReported e = true := by
  unfold Language.ofPath at h
  dsimp only at h
  split at h
  · split at h <;> cases h
    rfl
  · split at h <;> cases h
    rfl

/-- All failures to find a command in a file are reported, except too large a number. -/
theorem isReported_of_command {e : Failure} (h : (r.command env read parse).outcome = .error e) :
    e = .literal .overflow ∨ isReported e = true := by
  unfold CompileRequest.command Command.ofFile at h
  rw [Report.outcome_bind, bind_eq_error_iff] at h
  rcases h with h | ⟨l, -, h⟩
  · exact .inr (isReported_of_ofPath h)
  · split at h
    · exact Except.error.inj h ▸ .inr rfl
    · split at h
      · exact Except.error.inj h ▸ .inr rfl
      · exact isReported_of_findSource h

/-- The exit code and the standard output that answer a request in the JSON format. -/
def answer : Except Failure (Option Command) → Option Nat × Text
  | .error e => (if isReported e then some 1 else none, [])
  | .ok none => (some 1, [])
  | .ok (some c) =>
    match c.toJsonText with
    | .error _ => (none, [])
    | .ok t => (some 0, t ++ [.scalar '\n'])

/-- No threshold and no notice has a part in the answer. -/
theorem runCompile_answer (hr : r.format = .json) (env : Environment) (threshold : Threshold) :
    (runCompile platform read (Settings.ofEnvironment env) threshold r).exitCode? =
        (answer (r.command env read platform.parse).outcome).1 ∧
      (runCompile platform read (Settings.ofEnvironment env) threshold r).written =
        (answer (r.command env read platform.parse).outcome).2 := by
  have hcommand : Command.ofFile read (Path.ofText r.path) (Path.ofText r.path).render r.typeName
      r.language (r.tagKey.getD (Settings.ofEnvironment env).tagKey) platform.parse =
        r.command env read platform.parse := rfl
  unfold runCompile
  dsimp only
  rw [hcommand, hr]
  obtain ⟨notices, outcome⟩ := r.command env read platform.parse
  rcases outcome with e | _ | c
  · cases he : isReported e <;> simp [answer, he, Result.exitCode?, Result.written]
  · exact ⟨rfl, rfl⟩
  · simp only [formatted, answer, Report.outcome_bind, Report.ofExcept]
    cases c.toJsonText with
    | error e => exact ⟨rfl, rfl⟩
    | ok t => exact ⟨rfl, Text.flatMap_lines t⟩

theorem run_compile (h : Asks platform arguments verbose r) {threshold : Threshold}
    (ht : thresholdOf (Settings.ofEnvironment env) verbose = .ok threshold) :
    run env read arguments platform =
      runCompile platform read (Settings.ofEnvironment env) threshold r := by
  obtain ⟨p, hp, rfl, hr⟩ := h
  simp only [run, hp, ht, hr]

theorem exists_threshold (h : verbose = true ∨ ValidLevel level) (env : Environment) :
    ∃ t, thresholdOf (Settings.ofEnvironment { env with logLevel := level }) verbose = .ok t := by
  unfold thresholdOf
  cases verbose with
  | true => exact ⟨_, rfl⟩
  | false =>
    rcases h with h | h
    · cases h
    · exact h

/-- What the answer to a request in the JSON format says of the outcome of its command: the whole
command in an object whose members stand in a fixed order, or nothing. -/
structure Prints (found : Except Failure (Option Command)) (code : Option Nat) (out : Text) :
    Prop where
  command : ∀ c, found = .ok (some c) → (∀ t ∈ c.texts, ∀ half, .surrogate half ∉ t) →
    code = some 0 ∧ Json.decode? out = some (.object [
      ("name", .string c.name),
      ("package", .string c.package),
      ("type", .string c.type),
      ("help", .string c.help),
      ("description", .string c.description),
      ("inputs", .array (c.inputs.map fun i => .object [
        ("field_name", .string i.fieldName),
        ("tag", .string i.tag),
        ("doc", .string i.doc),
        ("type", .string i.type)]))])
  not_found : found = .ok none → code = some 1 ∧ out = []
  reported : ∀ e : Failure, found = .error e → (∃ path, e = .fileNotFound path) ∨ e.IsValueError →
    code = some 1 ∧ out = []
  all_or_nothing : code ≠ some 0 → out = []
  of_zero : code = some 0 → ∃ c, found = .ok (some c)

theorem prints_answer {found : Except Failure (Option Command)}
    (h : ∀ e, found = .error e → e = .literal .overflow ∨ isReported e = true) :
    Prints found (answer found).1 (answer found).2 where
  command := by
    rintro c rfl hc
    simp only [answer, Command.toJsonText, Text.findSome?_surrogateRun?_iff.mpr hc, true_and]
    exact Json.decode?_render 0 c.toJson _ rfl
  not_found := by
    rintro rfl
    exact ⟨rfl, rfl⟩
  reported := by
    rintro e rfl he
    have hr : isReported e = true := by
      rcases h e rfl with rfl | hr
      · simp [Failure.IsValueError] at he
      · exact hr
    simp [answer, hr]
  all_or_nothing := by
    unfold answer
    split
    · exact fun _ => rfl
    · exact fun _ => rfl
    · split <;> simp
  of_zero := by
    unfold answer
    split
    · split <;> simp
    · simp
    · exact fun _ => ⟨_, rfl⟩

/-- A request in the JSON format has one answer, which prints its command faithfully or not at all.
Every run that it is asked of gives this answer, whatever the log shows and whatever the run relies
on. -/
theorem compile_prints_json (platform : Platform) (env : Environment) (read : FileReader)
    (r : CompileRequest) (hr : r.format = .json) :
    (∀ verbose, Asks {} (r.arguments verbose) verbose r) ∧
    ∃ code out, Prints (r.command env read platform.parse).outcome code out ∧
      ∀ verbose level arguments, Asks platform arguments verbose r →
        verbose = true ∨ ValidLevel level →
        (run { env with logLevel := level } read arguments platform).exitCode? = code ∧
        (run { env with logLevel := level } read arguments platform).written = out := by
  refine ⟨asks_arguments r, _, _, prints_answer fun e => isReported_of_command, ?_⟩
  intro verbose level arguments ha hl
  obtain ⟨threshold, ht⟩ := exists_threshold hl env
  rw [run_compile ha ht]
  exact runCompile_answer hr { env with logLevel := level } threshold

namespace Quotation

/-- A doc with a quote and a backslash, and a tag with a line feed. -/
def source : List UInt8 :=
  "package p\n\n// \"\\\ntype T struct \x7b\n\tA int `cliche:\"\\n\"`\n\x7d\n".toUTF8.data.toList

def files : FileReader := Files.read? [(["p.go"], source)]

def request (path : Text) : CompileRequest := { path, typeName := "T" }

def compiled : Command := {
  name := "p"
  package := "p"
  type := "T"
  description := "\"\\"
  inputs := [{ fieldName := "A", tag := "\n", type := "int" }] }

def declared : PackageDecl := {
  name := "p"
  types := [{
    name := "T"
    doc := "\"\\"
    kind := structKind
    fields := some [{ names := ["A"], tag := some "`cliche:\"\\n\"`", type := "int" }] }] }

theorem readPackage_quoted :
    Go.readPackage "p.go" source = ⟨[.packageParsed "p" "p.go" 1], .ok declared⟩ := rfl

theorem command_request :
    ((request "./p.go").command {} files Go.readTree).outcome = .ok (some compiled) := by
  have hfind : (request "./p.go").command {} files Go.readTree =
      Command.findSource Go.readPackage (.bytes source) "p.go" "T" "cliche" :=
    Command.ofFile_of_read (l := .go) rfl (by decide) rfl _ _ _ _
  rw [hfind, Command.findSource, Command.loadSource_of_encode rfl, readPackage_quoted]
  rfl

theorem debug_valid : ValidLevel (some (Text.ofString " Debug ")) := ⟨10, rfl⟩

theorem printed_once : (request "./p.go").format = .json ∧
    (run {} files ((request "./p.go").arguments true)).exitCode? = some 0 ∧
    Json.decode? (run {} files ((request "./p.go").arguments true)).written =
      some compiled.toJson ∧
    (run {} files ((request "./p.go").arguments true)).written =
      (run { logLevel := some (Text.ofString " Debug ") } files
        ((request "./p.go").arguments false)).written ∧
    (run {} files ((request "q.go").arguments true)).exitCode? = some 1 := by
  have hs : ∀ t ∈ compiled.texts, ∀ half, .surrogate half ∉ t :=
    Text.findSome?_surrogateRun?_iff.mp rfl
  have he : ((request "q.go").command {} files Go.readTree).outcome = .error (.fileNotFound "q.go") := rfl
  obtain ⟨hasks, code, out, hp, hrun⟩ := compile_prints_json {} {} files (request "./p.go") rfl
  obtain ⟨hcode, hout⟩ := hrun true none _ (hasks true) (.inl rfl)
  obtain ⟨-, hout'⟩ := hrun false _ _ (hasks false) (.inr debug_valid)
  obtain ⟨hzero, hdecode⟩ := hp.command compiled command_request hs
  obtain ⟨hasks', _, _, hp', hrun'⟩ := compile_prints_json {} {} files (request "q.go") rfl
  obtain ⟨hcode', -⟩ := hrun' true none _ (hasks' true) (.inl rfl)
  refine ⟨rfl, hcode.trans hzero, ?_, hout.trans hout'.symm, ?_⟩
  · rw [hout, hdecode]
    rfl
  · exact hcode'.trans (hp'.reported _ he (.inl ⟨_, rfl⟩)).1

end Quotation

end Shell

end StructCli
