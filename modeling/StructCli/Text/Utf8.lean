import StructCli.Text.Basic

/-! # UTF-8

Decoding of bytes, and encoding of texts without surrogates. A fault of decoding names the longest valid beginning of the sequence that fails, and
whether its first byte, a later byte or the end of the data is to blame.
-/

namespace StructCli

namespace Utf8

inductive Reason where
  | invalidStart
  | invalidContinuation
  | unexpectedEnd
  deriving DecidableEq, Repr

/-- The bytes from `start` on, `length` of them, are no character. -/
structure Fault where
  start : Nat
  length : Nat
  byte : UInt8
  reason : Reason
  deriving DecidableEq, Repr

/-- What a first byte asks for: the number of bytes that follow, the bounds of the next one, and
the bits that it contributes. -/
structure Lead where
  following : Nat
  low : UInt8
  high : UInt8
  bits : Nat

def lead? (b : UInt8) : Option Lead :=
  if b < 0x80 then some ⟨0, 0x80, 0xBF, b.toNat⟩
  else if b < 0xC2 then none
  else if b < 0xE0 then some ⟨1, 0x80, 0xBF, b.toNat - 0xC0⟩
  else if b == 0xE0 then some ⟨2, 0xA0, 0xBF, 0⟩
  else if b == 0xED then some ⟨2, 0x80, 0x9F, 0xD⟩
  else if b < 0xF0 then some ⟨2, 0x80, 0xBF, b.toNat - 0xE0⟩
  else if b == 0xF0 then some ⟨3, 0x90, 0xBF, 0⟩
  else if b < 0xF4 then some ⟨3, 0x80, 0xBF, b.toNat - 0xF0⟩
  else if b == 0xF4 then some ⟨3, 0x80, 0x8F, 4⟩
  else none

/-- Reads `following` further bytes, the first of them within bounds. On failure gives the number
of bytes that were accepted. -/
def continuation (low high : UInt8) (bits : Nat) :
    Nat → List UInt8 → Except (Nat × Reason) (Nat × List UInt8)
  | 0, bytes => .ok (bits, bytes)
  | _ + 1, [] => .error (0, .unexpectedEnd)
  | n + 1, b :: bytes =>
    if low ≤ b && b ≤ high then
      match continuation 0x80 0xBF (bits * 64 + (b.toNat - 0x80)) n bytes with
      | .ok r => .ok r
      | .error (k, reason) => .error (k + 1, reason)
    else .error (0, .invalidContinuation)

/-- One character from the front of the bytes, and the number of bytes that it takes. -/
def decodeChar (position : Nat) (b : UInt8) (bytes : List UInt8) :
    Except Fault (Char × Nat × List UInt8) :=
  match lead? b with
  | none => .error ⟨position, 1, b, .invalidStart⟩
  | some lead =>
    match continuation lead.low lead.high lead.bits lead.following bytes with
    | .ok (n, rest) => .ok (Char.ofNat n, lead.following + 1, rest)
    | .error (k, reason) => .error ⟨position, k + 1, b, reason⟩

def decodeFrom : Nat → Nat → List UInt8 → Except Fault (List Char)
  | 0, _, _ => .ok []
  | _ + 1, _, [] => .ok []
  | fuel + 1, position, b :: bytes => do
    let (c, length, rest) ← decodeChar position b bytes
    let cs ← decodeFrom fuel (position + length) rest
    return c :: cs

def decode (bytes : List UInt8) : Except Fault (List Char) := decodeFrom bytes.length 0 bytes

def Reason.message : Reason → String
  | invalidStart => "invalid start byte"
  | invalidContinuation => "invalid continuation byte"
  | unexpectedEnd => "unexpected end of data"

def hexByte (b : UInt8) : String :=
  String.ofList [Nat.digitChar (b.toNat / 16), Nat.digitChar (b.toNat % 16)]

/-- A fault of one byte shows the byte, a longer one its positions. -/
def Fault.message (f : Fault) : String :=
  "'utf-8' codec can't decode " ++
    (if f.length ≤ 1 then s!"byte 0x{hexByte f.byte} in position {f.start}: "
     else s!"bytes in position {f.start}-{f.start + f.length - 1}: ") ++ f.reason.message

end Utf8

namespace Text

def halves : Text → List (Fin 2048)
  | .surrogate h :: r => h :: halves r
  | _ => []

/-- The first run of surrogates in a text: where it starts, where it ends, and its first member. -/
def surrogateRun? (position : Nat) : Text → Option (Nat × Nat × Fin 2048)
  | [] => none
  | .surrogate h :: r => some (position, position + (halves r).length, h)
  | .scalar _ :: r => surrogateRun? (position + 1) r

end Text

/-- The bytes of a text, or its first run of surrogates. -/
def Utf8.encode (t : Text) : Except (Nat × Nat × Fin 2048) (List UInt8) :=
  match t.surrogateRun? 0 with
  | some run => .error run
  | none => .ok (t.flatMap fun
    | .scalar c => String.utf8EncodeChar c
    | .surrogate _ => [])

end StructCli
