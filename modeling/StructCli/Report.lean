import StructCli.Declaration
import StructCli.Directive.Value
import StructCli.Go.Literal

/-! # Reports

A computation on declarations leaves notices of what it did, and ends in a value or a failure.
-/

namespace StructCli

inductive Severity where
  | debug
  | info
  | warning
  deriving DecidableEq, Repr

def Severity.label : Severity → Text
  | debug => "DEBUG"
  | info => "INFO"
  | warning => "WARNING"

inductive TypeFault where
  | missing (filename : Text)
  | notStruct (filename kind : Text)
  deriving DecidableEq, Repr

def TypeFault.message : TypeFault → Text
  | missing filename => "not found in " ++ filename
  | notStruct filename kind => "in " ++ filename ++ " is a " ++ kind ++ ", not a struct"

inductive SourceFault where
  | encoding (detail : Text)
  | syntaxError
  | noPackage
  deriving DecidableEq, Repr

def SourceFault.message : SourceFault → Text
  | encoding detail => "source is not valid UTF-8: " ++ detail
  | syntaxError => "source contains syntax errors"
  | noPackage => "missing package clause"

inductive Failure where
  | directive (e : DirectiveError)
  | literal (e : Go.LiteralError)
  | unwritable (e : Numeral.TooLong)
  | type (name : Text) (fault : TypeFault)
  | source (filename : Text) (fault : SourceFault)
  | unknownLanguage (language : Text)
  | unknownSuffix (suffix path : Text)
  | noReader (language : Text)
  | fileNotFound (path : Text)
  | nulInPath
  | unknownLevel (level : Text)
  | surrogates (first last : Nat) (half : Fin 2048)
  | unencodable (first last : Nat) (half : Fin 2048)
  deriving DecidableEq, Repr

namespace Failure

def surrogateMessage (first last : Nat) (half : Fin 2048) : Text :=
  "'utf-8' codec can't encode " ++
    (if first = last then
      "character '" ++ Text.numericEscape (0xD800 + half.val) ++ "' in position " ++
        Text.ofNat first
    else "characters in position " ++ Text.ofNat first ++ "-" ++ Text.ofNat last) ++
    ": surrogates not allowed"

def message : Failure → Text
  | directive e => e.message
  | literal e => e.message
  | unwritable _ =>
    "Exceeds the limit (4300 digits) for integer string conversion; " ++
      "use sys.set_int_max_str_digits() to increase the limit"
  | type name fault => "Type " ++ Text.quoted name ++ " " ++ fault.message
  | source filename fault => filename ++ ": " ++ fault.message
  | unknownLanguage language =>
    "Unsupported language " ++ Text.quoted language ++ "; choose one of: go, golang"
  | unknownSuffix suffix path =>
    "Unsupported file extension " ++ Text.quoted (if suffix = [] then "(none)" else suffix) ++
      " for " ++ path ++ "; name the language explicitly"
  | noReader language => "No declaration parser for language " ++ Text.quoted language
  | fileNotFound path => "File not found: " ++ path
  | nulInPath => "embedded null byte"
  | unknownLevel level => "Unknown level: " ++ Text.quoted level
  | surrogates first last half => surrogateMessage first last half
  | unencodable first last half =>
    "Error serializing to JSON: UnicodeEncodeError: " ++ surrogateMessage first last half

end Failure

inductive Notice where
  | directiveEmpty (kind : DirectiveKind) (tag : Text)
  | directiveIgnored (kind : DirectiveKind) (tag : Text) (reason : Malformation)
  | helpMalformed (package : Text)
  | helpMissing (package : Text)
  | noStructTag (field : Text)
  | tagUnreadable (tag field : Text) (e : Go.LiteralError)
  | noTag (field key : Text)
  | tagFound (field key value : Text)
  | fieldNameless (type : Text)
  | fieldManyNames (names : List Text)
  | fieldUnexported (field : Text)
  | fieldCompiling (field : Text)
  | fieldDoc (field doc : Text)
  | fieldNoDoc (field : Text)
  | sourceUnparsable (filename : Text) (fault : SourceFault)
  | typeNotFound (filename name : Text) (fault : TypeFault)
  | packageParsed (name filename : Text) (types : Nat)
  deriving DecidableEq, Repr

namespace Notice

def severity : Notice → Severity
  | directiveEmpty .. | directiveIgnored .. | helpMalformed .. | helpMissing ..
  | tagUnreadable .. | fieldManyNames .. | sourceUnparsable .. | typeNotFound .. => .warning
  | packageParsed .. => .debug
  | _ => .info

def message : Notice → Text
  | directiveEmpty kind tag =>
    "Ignoring " ++ kind.label ++ " directive in tag " ++ Text.quoted tag ++ ": " ++
      Malformation.empty.message
  | directiveIgnored kind tag reason =>
    "Ignoring " ++ kind.label ++ " directive in tag " ++ Text.quoted tag ++ ": " ++
      reason.message
  | helpMalformed package =>
    "Package doc comment is malformed; proceeding anyway (package=" ++ package ++ ")"
  | helpMissing package => "Package has no doc comment (package=" ++ package ++ ")"
  | noStructTag field => "Field " ++ field ++ " has no struct tag"
  | tagUnreadable tag field e =>
    "Couldn't unquote struct tag " ++ tag ++ " on field " ++ field ++ ": " ++ e.message
  | noTag field key => "Field " ++ field ++ " has no " ++ key ++ " tag"
  | tagFound field key value =>
    "Field " ++ field ++ " has " ++ key ++ " tag " ++ Text.quoted value
  | fieldNameless type => "Skipping nameless field of type " ++ type
  | fieldManyNames names =>
    "Skipping field with multiple names: " ++ Text.joinWith ", " names ++
      "; cannot handle this case."
  | fieldUnexported field => "Skipping unexported field " ++ field
  | fieldCompiling field => "Compiling field named " ++ field
  | fieldDoc field doc => "Field " ++ field ++ " has doc comment: " ++ Text.quoted doc
  | fieldNoDoc field => "Field " ++ field ++ " has no doc comment"
  | sourceUnparsable filename fault =>
    "Failed creating declarations from " ++ filename ++ ": " ++
      (Failure.source filename fault).message
  | typeNotFound filename name fault =>
    "Type not found in " ++ filename ++ ": " ++ (Failure.type name fault).message
  | packageParsed name filename types =>
    "Parsed package " ++ name ++ " from " ++ filename ++ " with " ++ Text.ofNat types ++
      " type(s)"

end Notice

/-- The notices of a computation, in order, and its outcome. -/
structure Report (α : Type) where
  notices : List Notice
  outcome : Except Failure α

namespace Report

variable {α β : Type}

def fail (e : Failure) : Report α := ⟨[], .error e⟩

def note (n : Notice) : Report Unit := ⟨[n], .ok ()⟩

protected def bind (r : Report α) (f : α → Report β) : Report β :=
  match r.outcome with
  | .error e => ⟨r.notices, .error e⟩
  | .ok a => ⟨r.notices ++ (f a).notices, (f a).outcome⟩

instance : Monad Report where
  pure a := ⟨[], .ok a⟩
  bind := Report.bind

def ofExcept (r : Except Failure α) : Report α := ⟨[], r⟩

end Report

/-- Reads the declarations of an encoded source, given its name and its bytes. -/
abbrev DeclarationParser := Text → List UInt8 → Report PackageDecl

end StructCli
