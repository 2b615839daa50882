import StructCli.Files
import StructCli.Proofs.Command.Fault

/-! # Agreement of the ways to a command

A command is compiled from a type of a package, loaded from a source that has to hold the type,
found in a source that may hold it, or found in a file. Loading decides by the first type of the
name. Finding differs from loading by one notice, where no struct of the name is there.
-/

namespace StructCli

/-- The first type of a name: the types before it have other names. -/
def PackageDecl.FirstNamed (p : PackageDecl) (name : Text) (t : TypeDecl) : Prop :=
  ∃ before after, p.types = before ++ t :: after ∧ t.name = name ∧ ∀ u ∈ before, u.name ≠ name

def PackageDecl.HasStruct (p : PackageDecl) (name : Text) : Prop :=
  ∃ t, p.FirstNamed name t ∧ t.isStruct = true

/-- A source has no declarations. -/
def Failure.Unparsable (e : Failure) : Prop := ∃ filename fault, e = .source filename fault

/-- A type is missing, or is no struct. -/
def Failure.NotFound (e : Failure) : Prop := ∃ name fault, e = .type name fault

namespace PackageDecl

variable {p q : PackageDecl} {name : Text} {t : TypeDecl} {before after after' : List TypeDecl}

theorem findType_eq_some_iff : p.findType name = some t ↔ p.FirstNamed name t := by
  simp only [findType, FirstNamed, List.find?_eq_some_iff_append, decide_eq_true_eq,
    Bool.not_eq_true', decide_eq_false_iff_not]
  constructor
  · rintro ⟨hn, before, after, ht, hb⟩
    exact ⟨before, after, ht, hn, hb⟩
  · rintro ⟨before, after, ht, hn, hb⟩
    exact ⟨hn, before, after, ht, hb⟩

theorem findType_append (h : p.types = before ++ t :: after) (hn : t.name = name) :
    p.findType name = (before ++ [t]).find? (·.name = name) := by
  simp [findType, h, hn]

end PackageDecl

namespace Command

variable {declarations : Report PackageDecl} {package other : PackageDecl}
  {filename typeName key : Text} {loaded : Report Command} {e : Failure}

theorem load_of_error (h : declarations.outcome = .error e) (filename typeName key : Text) :
    load declarations filename typeName key = ⟨declarations.notices, .error e⟩ := by
  change Report.bind declarations _ = _
  rw [Report.bind, h]

theorem load_of_struct (h : declarations.outcome = .ok package) (hs : package.HasStruct typeName) :
    load declarations filename typeName key =
      ⟨declarations.notices ++ (ofType package typeName key).notices,
        (ofType package typeName key).outcome⟩ := by
  obtain ⟨t, ht, hs⟩ := hs
  change Report.bind declarations _ = _
  rw [Report.bind, h]
  simp only [PackageDecl.findType_eq_some_iff.mpr ht, hs, if_true]

theorem ofType_ne_recoverable (h : (ofType package typeName key).outcome = .error e) :
    ¬ e.Unparsable ∧ ¬ e.NotFound := by
  obtain ⟨before, field, after, -, -, hf⟩ := ofType_eq_error_iff.mp h
  obtain ⟨hn, hs⟩ := not_recovered_of_fault hf
  constructor
  · rintro ⟨filename, fault, rfl⟩
    exact hs _ _ rfl
  · rintro ⟨name, fault, rfl⟩
    exact hn _ _ rfl

theorem load_eq_unparsable_iff (he : e.Unparsable) :
    (load declarations filename typeName key).outcome = .error e ↔
      declarations.outcome = .error e := by
  cases h : declarations.outcome with
  | error d => simp [load_of_error h]
  | ok package =>
    simp only [reduceCtorEq, iff_false, load_eq_error_iff h]
    obtain ⟨_, _, rfl⟩ := he
    rintro (⟨-, h⟩ | ⟨t, -, -, h⟩ | h)
    · cases h
    · cases h
    · exact (ofType_ne_recoverable h).1 ⟨_, _, rfl⟩

theorem load_eq_notFound_iff (h : declarations.outcome = .ok package) :
    (∃ e : Failure, e.NotFound ∧ (load declarations filename typeName key).outcome = .error e) ↔
      ¬ package.HasStruct typeName := by
  constructor
  · rintro ⟨e, he, hl⟩ hs
    rw [load_of_struct h hs] at hl
    exact (ofType_ne_recoverable hl).2 he
  · intro hs
    cases ht : package.findType typeName with
    | none => exact ⟨_, ⟨_, _, rfl⟩, (load_eq_error_iff h).mpr (.inl ⟨ht, rfl⟩)⟩
    | some t =>
      have hf : t.isStruct = false := Bool.eq_false_iff.mpr fun hc =>
        hs ⟨t, PackageDecl.findType_eq_some_iff.mp ht, hc⟩
      exact ⟨_, ⟨_, _, rfl⟩, (load_eq_error_iff h).mpr (.inr (.inl ⟨t, ht, hf, rfl⟩))⟩

theorem ofType_of_no_struct (h : ¬ package.HasStruct typeName) (key : Text) :
    ∃ c, (ofType package typeName key).outcome = .ok c ∧ c.inputs = [] := by
  have hfields : package.fieldsOf typeName = [] := by
    unfold PackageDecl.fieldsOf
    split
    · next t ht => exact if_neg fun hs => h ⟨t, PackageDecl.findType_eq_some_iff.mp ht, hs⟩
    · rfl
  obtain ⟨f, hf, hc⟩ := exists_ofType_eq package typeName key
  rw [hfields] at hc
  exact ⟨f [], hc, hf []⟩

theorem ofType_append {before after after' : List TypeDecl} {t : TypeDecl}
    (h : package.types = before ++ t :: after) (hn : t.name = typeName) (key : Text) :
    ofType { package with types := before ++ t :: after' } typeName key =
      ofType package typeName key := by
  simp only [ofType, PackageDecl.findType_append h hn,
    PackageDecl.findType_append (p := { package with types := before ++ t :: after' }) rfl hn]

theorem load_append {declarations' : Report PackageDecl} {before after after' : List TypeDecl}
    {t : TypeDecl} (h : declarations.outcome = .ok package)
    (ht : package.types = before ++ t :: after) (hn : t.name = typeName)
    (h' : declarations'.outcome = .ok { package with types := before ++ t :: after' })
    (filename key : Text) : (load declarations' filename typeName key).outcome =
      (load declarations filename typeName key).outcome := by
  simp only [load, Report.outcome_bind, h, h', ok_bind, ofType_append ht hn,
    PackageDecl.findType_append ht hn,
    PackageDecl.findType_append (p := { package with types := before ++ t :: after' }) rfl hn]

/-- How a command is loaded from declarations. The first type of the name decides, whatever stands
behind it, and where it is a struct, loading is compiling. -/
structure Loads (declarations : Report PackageDecl) (filename typeName key : Text)
    (loaded : Report Command) : Prop where
  failed : ∀ e, declarations.outcome = .error e → loaded = ⟨declarations.notices, .error e⟩
  unparsable_iff : ∀ e : Failure, e.Unparsable →
    (loaded.outcome = .error e ↔ declarations.outcome = .error e)
  notFound_iff : ∀ package, declarations.outcome = .ok package →
    ((∃ e : Failure, e.NotFound ∧ loaded.outcome = .error e) ↔ ¬ package.HasStruct typeName)
  compiled_empty : ∀ package, declarations.outcome = .ok package → ¬ package.HasStruct typeName →
    ∃ c, (ofType package typeName key).outcome = .ok c ∧ c.inputs = []
  eq_compiled : ∀ package, declarations.outcome = .ok package → package.HasStruct typeName →
    loaded.outcome = (ofType package typeName key).outcome ∧
      loaded.notices = declarations.notices ++ (ofType package typeName key).notices
  later_ignored : ∀ package before t after after', declarations.outcome = .ok package →
    package.types = before ++ t :: after → t.name = typeName →
    ∀ declarations' : Report PackageDecl,
      declarations'.outcome = .ok { package with types := before ++ t :: after' } →
      (load declarations' filename typeName key).outcome = loaded.outcome

theorem loads_load (declarations : Report PackageDecl) (filename typeName key : Text) :
    Loads declarations filename typeName key (load declarations filename typeName key) where
  failed _ h := load_of_error h filename typeName key
  unparsable_iff _ he := load_eq_unparsable_iff he
  notFound_iff _ h := load_eq_notFound_iff h
  compiled_empty _ _ hs := ofType_of_no_struct hs key
  eq_compiled package h hs := by
    rw [load_of_struct h hs]
    exact ⟨rfl, rfl⟩
  later_ignored _ _ _ _ _ h ht hn _ h' := load_append h ht hn h' filename key

/-- How a command is found where it can be loaded. A source without declarations and a missing
struct give nothing, and one warning. -/
structure Recovers (loaded : Report Command) (found : Report (Option Command)) : Prop where
  some_iff : ∀ c, found.outcome = .ok (some c) ↔ loaded.outcome = .ok c
  none_iff : found.outcome = .ok none ↔
    ∃ e : Failure, loaded.outcome = .error e ∧ (e.Unparsable ∨ e.NotFound)
  error_iff : ∀ e : Failure, found.outcome = .error e ↔
    loaded.outcome = .error e ∧ ¬ (e.Unparsable ∨ e.NotFound)
  notices_of_none : found.outcome = .ok none →
    ∃ n, n.severity = .warning ∧ found.notices = loaded.notices ++ [n]
  notices_of_ne_none : found.outcome ≠ .ok none → found.notices = loaded.notices

theorem recovers_recover (filename : Text) (loaded : Report Command) :
    Recovers loaded (recover filename loaded) where
  some_iff c := recover_eq_some_iff
  none_iff := by
    unfold recover Failure.Unparsable Failure.NotFound
    split <;> simp_all
  error_iff e := by
    rw [recover_eq_error_iff]
    simp only [Failure.Unparsable, Failure.NotFound, not_or, not_exists, and_comm]
  notices_of_none h := by
    unfold recover at h ⊢
    split at h
    · cases h
    · exact ⟨_, rfl, rfl⟩
    · exact ⟨_, rfl, rfl⟩
    · cases h
  notices_of_ne_none h := by
    unfold recover at h ⊢
    split at h
    · rfl
    · exact absurd rfl h
    · exact absurd rfl h
    · rfl

theorem loadSource_of_encode {parser : DeclarationParser} {source : Source} {bytes : List UInt8}
    (h : source.encode = .ok bytes) (filename typeName key : Text) :
    loadSource parser source filename typeName key =
      load (parser filename bytes) filename typeName key := by
  change Report.bind (Report.ofExcept source.encode) _ = _
  rw [Report.bind, h]
  rfl

theorem loadSource_of_encode_error {parser : DeclarationParser} {source : Source}
    (h : source.encode = .error e) (filename typeName key : Text) :
    loadSource parser source filename typeName key = Report.fail e := by
  change Report.bind (Report.ofExcept source.encode) _ = _
  rw [Report.bind, h]
  rfl

theorem encode_ne_recoverable {source : Source} (h : source.encode = .error e) :
    ¬ (e.Unparsable ∨ e.NotFound) := by
  cases source with
  | bytes source => cases h
  | text source =>
    rw [Source.encode] at h
    cases hs : Utf8.encode source with
    | ok bytes => cases hs ▸ h
    | error run =>
      rw [hs] at h
      cases h
      rintro (⟨_, _, h⟩ | ⟨_, _, h⟩) <;> cases h

theorem unparsable_of_declarationParser {parse : Go.TreeParser} {source : List UInt8}
    (h : (Go.declarationParser parse filename source).outcome = .error e) : e.Unparsable := by
  unfold Go.declarationParser at h
  split at h
  · next fault _ => exact ⟨filename, fault, (Except.error.inj h).symm⟩
  · cases h

theorem ofFile_of_read {read : FileReader} {path : Path} {language : Option Text} {l : Language}
    {source : List UInt8} (hl : Language.ofPath path language = .ok l)
    (hp : .scalar '\x00' ∉ path.render) (hr : read path = some source) (shown typeName key : Text)
    (parse : Go.TreeParser) : ofFile read path shown typeName language key parse =
      findSource (Go.declarationParser parse) (.bytes source) path.render typeName key := by
  change Report.bind (Report.ofExcept (Language.ofPath path language)) _ = _
  rw [Report.bind, hl]
  simp only [Report.ofExcept, hp, if_false, hr, List.nil_append]

/-- Compiling, loading and finding a command agree, whatever the parser and whether the source is
bytes or text, and a file is as good as its bytes. -/
theorem entry_points_agree (parser : DeclarationParser) (source : Source)
    (filename typeName key : Text) :
    (∀ bytes, source.encode = .ok bytes →
      Loads (parser filename bytes) filename typeName key
        (loadSource parser source filename typeName key)) ∧
    (∀ e, source.encode = .error e → ¬ (e.Unparsable ∨ e.NotFound) ∧
      loadSource parser source filename typeName key = Report.fail e) ∧
    Recovers (loadSource parser source filename typeName key)
      (findSource parser source filename typeName key) ∧
    ∀ parse : Go.TreeParser,
      (∀ bytes e, (Go.declarationParser parse filename bytes).outcome = .error e →
        e.Unparsable) ∧
      ∀ (read : FileReader) (path shown : Text) (language : Option Text) (l : Language)
        (bytes : List UInt8), Language.ofPath (Path.ofText path) language = .ok l →
        .scalar '\x00' ∉ (Path.ofText path).render → read (Path.ofText path) = some bytes →
        ofFile read (Path.ofText path) shown typeName language key parse =
          findSource (Go.declarationParser parse) (.bytes bytes) (Path.ofText path).render typeName
            key := by
  refine ⟨fun bytes h => ?_, fun e h => ?_, recovers_recover filename _, fun parse => ⟨?_, ?_⟩⟩
  · rw [loadSource_of_encode h]
    exact loads_load _ filename typeName key
  · exact ⟨encode_ne_recoverable h, loadSource_of_encode_error h filename typeName key⟩
  · exact fun bytes e h => unparsable_of_declarationParser h
  · intro read path shown language l bytes hl hp hr
    exact ofFile_of_read hl hp hr shown typeName key parse

namespace Twice

/-- A type that is no struct, and a struct of the same name behind it. -/
def source : String := "package p\n\ntype T int\n\ntype T struct \x7b\n\tA int\n\x7d\n"

def bytes : List UInt8 := source.toUTF8.data.toList

def declared : PackageDecl := {
  name := "p"
  types := [{ name := "T", kind := "type_identifier" },
    { name := "T", kind := structKind, fields := some [{ names := ["A"], type := "int" }] }] }

theorem not_hasStruct : ¬ declared.HasStruct "T" := by
  rintro ⟨t, ht, hs⟩
  have hfind : declared.findType "T" = some { name := "T", kind := "type_identifier" } := rfl
  rw [PackageDecl.findType_eq_some_iff.mpr ht] at hfind
  rw [Option.some.inj hfind] at hs
  revert hs
  decide

/-- Read as text or as bytes, or from a file, the source holds no struct of the name. -/
theorem first_type_decides :
    (findSource Go.readPackage (.text source) "p.go" "T" "cliche").outcome = .ok none ∧
    (∃ c, (ofType declared "T" "cliche").outcome = .ok c ∧ c.inputs = []) ∧
    ofFile (Files.read? [(["p.go"], bytes)]) (Path.ofText "./p.go") "./p.go" "T" none "cliche" =
      findSource Go.readPackage (.bytes bytes) "p.go" "T" "cliche" := by
  have hencode : (Source.text source).encode = .ok bytes := rfl
  have hparse : (Go.readPackage "p.go" bytes).outcome = .ok declared := rfl
  obtain ⟨hload, -, hfind, hfile⟩ :=
    entry_points_agree Go.readPackage (.text source) "p.go" "T" "cliche"
  have hload := hload bytes hencode
  refine ⟨?_, hload.compiled_empty declared hparse not_hasStruct, ?_⟩
  · obtain ⟨e, he, hl⟩ := (hload.notFound_iff declared hparse).mpr not_hasStruct
    exact hfind.none_iff.mpr ⟨e, hl, .inr he⟩
  · exact (hfile Go.readTree).2 _ "./p.go" "./p.go" none .go bytes (by decide) (by decide) rfl

end Twice

end Command

end StructCli
