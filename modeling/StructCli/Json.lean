import StructCli.Command.Basic
import StructCli.Text.Quoted

/-! # JSON

Values made of strings, arrays and objects, and their text: one member or element on a line, two
blanks of indentation for each level.
-/

namespace StructCli

inductive Json where
  | string (t : Text)
  | array (items : List Json)
  | object (members : List (Text × Json))

namespace Json

def unit (c : CodePoint) : Text :=
  if c = .scalar '"' then "\\\""
  else if c = .scalar '\\' then "\\\\"
  else if c.value = 8 then "\\b"
  else if c.value = 9 then "\\t"
  else if c.value = 10 then "\\n"
  else if c.value = 12 then "\\f"
  else if c.value = 13 then "\\r"
  else if c.value < 32 then "\\u" ++ Text.hexDigits 4 c.value
  else [c]

def quoted (t : Text) : Text := .scalar '"' :: t.flatMap unit ++ [.scalar '"']

def newline (level : Nat) : Text := .scalar '\n' :: List.replicate (2 * level) (.scalar ' ')

mutual

def render (level : Nat) : Json → Text
  | string t => quoted t
  | array [] => "[]"
  | array (v :: vs) =>
    .scalar '[' :: newline (level + 1) ++ render (level + 1) v ++ renderItems (level + 1) vs ++
      newline level ++ "]"
  | object [] => "\x7b\x7d"
  | object ((k, v) :: ms) =>
    .scalar '\x7b' :: newline (level + 1) ++ quoted k ++ ": " ++ render (level + 1) v ++
      renderMembers (level + 1) ms ++ newline level ++ "\x7d"

/-- The elements after the first one. -/
def renderItems (level : Nat) : List Json → Text
  | [] => []
  | v :: vs => .scalar ',' :: newline level ++ render level v ++ renderItems level vs

/-- The members after the first one. -/
def renderMembers (level : Nat) : List (Text × Json) → Text
  | [] => []
  | (k, v) :: ms =>
    .scalar ',' :: newline level ++ quoted k ++ ": " ++ render level v ++ renderMembers level ms

end

end Json

def CommandInput.toJson (i : CommandInput) : Json :=
  .object [("field_name", .string i.fieldName), ("tag", .string i.tag), ("doc", .string i.doc),
    ("type", .string i.type)]

namespace Command

def toJson (c : Command) : Json :=
  .object [("name", .string c.name), ("package", .string c.package), ("type", .string c.type),
    ("help", .string c.help), ("description", .string c.description),
    ("inputs", .array (c.inputs.map CommandInput.toJson))]

def texts (c : Command) : List Text :=
  [c.name, c.package, c.type, c.help, c.description] ++
    c.inputs.flatMap fun i => [i.fieldName, i.tag, i.doc, i.type]

/-- The JSON text of a command. A surrogate cannot be written. -/
def toJsonText (c : Command) : Except Failure Text :=
  match c.texts.findSome? (Text.surrogateRun? 0) with
  | some (first, last, half) => .error (.unencodable first last half)
  | none => .ok (c.toJson.render 0)

end Command

end StructCli
