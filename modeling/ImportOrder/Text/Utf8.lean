import ImportOrder.Text.Basic

/-! The UTF-8 form of a text: its bytes, the way back, and offsets counted in bytes. -/

namespace ImportOrder

/-- A byte string. -/
abbrev Bytes := List UInt8

namespace Utf8

/-- The bytes of a text. -/
def encode (text : Text) : Bytes := text.flatMap String.utf8EncodeChar

/-- The number of bytes of a text. -/
def length : Text → Nat
  | [] => 0
  | c :: rest => c.utf8Size + length rest

/-- Why a byte sequence is no character. -/
inductive Cause
  | badStart
  | badContinuation
  | cutShort
deriving DecidableEq, Repr

/-- A byte sequence that is no character: where it starts, its first byte and how many bytes it has.
-/
structure Fault where
  position : Nat
  byte : UInt8
  width : Nat
  cause : Cause
deriving DecidableEq, Repr

/-- The wording of a cause. -/
def Cause.message : Cause → String
  | .badStart => "invalid start byte"
  | .badContinuation => "invalid continuation byte"
  | .cutShort => "unexpected end of data"

/-- A byte written as two lower-case hexadecimal digits. -/
def hexByte (byte : UInt8) : String :=
  String.ofList [Nat.digitChar (byte.toNat / 16), Nat.digitChar (byte.toNat % 16)]

/-- A single faulty byte is shown, a longer sequence is given by its first and last position. -/
def Fault.message (fault : Fault) : String :=
  if fault.width ≤ 1 then
    s!"'utf-8' codec can't decode byte 0x{hexByte fault.byte} in position {fault.position}: " ++
      fault.cause.message
  else
    let last := fault.position + fault.width - 1
    s!"'utf-8' codec can't decode bytes in position {fault.position}-{last}: " ++
      fault.cause.message

/-- What the first byte of a character promises: how many bytes follow, the bits it carries itself,
and the range of the second byte. -/
structure Lead where
  more : Nat
  bits : Nat
  low : Nat
  high : Nat

/-- The promise of a first byte, none when no character starts with it. -/
def lead? (byte : Nat) : Option Lead :=
  if byte < 0x80 then some ⟨0, byte, 0, 0⟩
  -- These would be longer forms of one-byte characters.
  else if byte < 0xC2 then none
  else if byte < 0xE0 then some ⟨1, byte - 0xC0, 0x80, 0xBF⟩
  else if byte == 0xE0 then some ⟨2, 0, 0xA0, 0xBF⟩
  -- The second byte must not lead to half of a character.
  else if byte == 0xED then some ⟨2, 0xD, 0x80, 0x9F⟩
  else if byte < 0xF0 then some ⟨2, byte - 0xE0, 0x80, 0xBF⟩
  else if byte == 0xF0 then some ⟨3, 0, 0x90, 0xBF⟩
  else if byte < 0xF4 then some ⟨3, byte - 0xF0, 0x80, 0xBF⟩
  else if byte == 0xF4 then some ⟨3, 4, 0x80, 0x8F⟩
  else none

/-- Read the continuation bytes of a character: its number, or how many bytes were good and why it
ends. -/
def continuation : (more bits low high good : Nat) → Bytes → Except (Nat × Cause) Nat
  | 0, bits, _, _, _, _ => .ok bits
  | _ + 1, _, _, _, good, [] => .error (good, .cutShort)
  | more + 1, bits, low, high, good, byte :: rest =>
    if low ≤ byte.toNat && byte.toNat ≤ high then
      continuation more (bits * 64 + (byte.toNat - 0x80)) 0x80 0xBF (good + 1) rest
    else .error (good, .badContinuation)

/-- Read characters, where `position` is the offset of the first byte given and `skip` counts the
bytes that belong to a character already read. -/
def decodeFrom (position skip : Nat) : Bytes → Except Fault Text
  | [] => .ok []
  | byte :: rest =>
    match skip with
    | skip + 1 => decodeFrom (position + 1) skip rest
    | 0 =>
      match lead? byte.toNat with
      | none => .error ⟨position, byte, 1, .badStart⟩
      | some lead =>
        match continuation lead.more lead.bits lead.low lead.high 1 rest with
        | .error (width, cause) => .error ⟨position, byte, width, cause⟩
        -- The continuation bytes are read already and are skipped one by one.
        | .ok number => do
          let text ← decodeFrom (position + 1) lead.more rest
          return Char.ofNat number :: text

/-- The text of a byte string, or the first fault in it. -/
def decode (bytes : Bytes) : Except Fault Text := decodeFrom 0 0 bytes

/-- Read characters and leave out what is none, where `skip` counts the bytes that are done with. -/
def salvageFrom (skip : Nat) : Bytes → Text
  | [] => []
  | byte :: rest =>
    match skip with
    | skip + 1 => salvageFrom skip rest
    | 0 =>
      match lead? byte.toNat with
      | none => salvageFrom 0 rest
      | some lead =>
        match continuation lead.more lead.bits lead.low lead.high 1 rest with
        | .error (width, _) => salvageFrom (width - 1) rest
        | .ok number => Char.ofNat number :: salvageFrom lead.more rest

/-- The characters of a byte string, where a sequence that is no character is left out. -/
def salvage (bytes : Bytes) : Text := salvageFrom 0 bytes

/-- The character offset of a byte offset: how many characters the bytes in front of it hold. A text
of one-byte characters needs no count, and there the offset is kept even beyond the end. -/
def charOffset (text : Text) (offset : Nat) : Nat :=
  -- A text of one-byte characters has as many bytes as characters.
  if length text == text.length then offset else (salvage ((encode text).take offset)).length

/-- The line, counted from zero, and the byte column of a byte offset. -/
def pointOf (text : Text) (offset : Nat) : Nat × Nat :=
  let before := (encode text).take offset
  let row := before.count 10
  let column := (before.reverse.takeWhile (· != 10)).length
  (row, if offset ≤ before.length then column else column + (offset - before.length))

end Utf8

end ImportOrder
