import StructCli.Command.Basic
import StructCli.Go.Grammar.File
import StructCli.Language

/-! # Files

A reader of files gives the bytes that a path names. Files below a working directory are such a
reader. A command is read from the file that holds its type.
-/

namespace StructCli

abbrev FileReader := Path → Option (List UInt8)

/-- Files, each with its path below the working directory and its bytes. -/
abbrev Files := List (List Text × List UInt8)

namespace Files

def isDirectory (files : Files) (parts : List Text) : Bool :=
  parts = [] || files.any fun f => parts.isPrefixOf f.1 && parts.length < f.1.length

/-- Walks from a directory along the parts of a path. Two dots go up, but not above the working
directory. -/
def walk (files : Files) : List Text → List Text → Option (List UInt8)
  | here, [] => files.lookup here
  | here, part :: parts =>
    if !files.isDirectory here then none
    else if part = Text.ofString ".." then
      if here = [] then none else walk files here.dropLast parts
    else walk files (here ++ [part]) parts

def read? (files : Files) : FileReader := fun path =>
  match path.root with
  | .relative => walk files [] path.parts
  | _ => none

end Files

namespace Command

/-- The command of a struct type in a file, if the file holds it. `shown` is the path as given. -/
def ofFile (read : FileReader) (path : Path) (shown typeName : Text) (language : Option Text)
    (key : Text) (parse : Go.TreeParser := Go.readTree) : Report (Option Command) := do
  let _ ← Report.ofExcept (Language.ofPath path language)
  if .scalar '\x00' ∈ path.render then Report.fail .nulInPath
  else match read path with
    | none => Report.fail (.fileNotFound shown)
    | some bytes =>
      findSource (Go.declarationParser parse) (.bytes bytes) path.render typeName key

end Command

end StructCli
