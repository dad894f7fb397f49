import NestedStyles.Text.Basic

/-!
Text as bytes in UTF-8. Encoding never fails; decoding says where and why it does.
-/

set_option autoImplicit false

namespace NestedStyles

inductive Utf8Reason where
  /-- A byte that no character starts with. -/
  | start
  /-- A byte that does not go on with the character that was started. -/
  | continuation
  /-- The bytes end inside a character. -/
  | truncated
  deriving DecidableEq, Repr

/-- Where bytes are no text: the position and number of the bytes at fault, and the first one. -/
structure Utf8Fault where
  reason : Utf8Reason
  position : Nat
  width : Nat
  byte : UInt8
  deriving DecidableEq, Repr

namespace Utf8Reason

def message : Utf8Reason → Text
  | start => "invalid start byte".toList
  | continuation => "invalid continuation byte".toList
  | truncated => "unexpected end of data".toList

end Utf8Reason

namespace Utf8

def hex (byte : UInt8) : Text :=
  [Nat.digitChar (byte.toNat / 16), Nat.digitChar (byte.toNat % 16)]

end Utf8

def Utf8Fault.message (fault : Utf8Fault) : Text :=
  let where' :=
    if fault.width = 1 then
      "byte 0x".toList ++ Utf8.hex fault.byte ++ " in position ".toList ++
        Text.ofNat fault.position
    else
      "bytes in position ".toList ++ Text.ofNat fault.position ++ '-' ::
        Text.ofNat (fault.position + fault.width - 1)
  "'utf-8' codec can't decode ".toList ++ where' ++ ": ".toList ++ fault.reason.message

namespace Utf8

def encode (text : Text) : List UInt8 :=
  text.flatMap String.utf8EncodeChar

/-- How many bytes follow a first byte, and the bits of the character in it; none if no character
starts with it. -/
def lead? (byte : UInt8) : Option (Nat × Nat) :=
  let n := byte.toNat
  if n < 0x80 then some (0, n)
  else if n < 0xC2 then none
  else if n < 0xE0 then some (1, n - 0xC0)
  else if n < 0xF0 then some (2, n - 0xE0)
  else if n < 0xF5 then some (3, n - 0xF0)
  else none

/-- The values that the second byte may have behind a first one, so that no character has two
forms and every form has a character. -/
def secondRange (byte : UInt8) : Nat × Nat :=
  if byte = 0xE0 then (0xA0, 0xBF)
  else if byte = 0xED then (0x80, 0x9F)
  else if byte = 0xF0 then (0x90, 0xBF)
  else if byte = 0xF4 then (0x80, 0x8F)
  else (0x80, 0xBF)

/-- Reads the bytes that go on with a character, given the range for the first of them, and adds
their bits to those read before. A fault comes with the number of bytes read before it. -/
def continued (range : Nat × Nat) :
    Nat → Nat → Nat → List UInt8 → Except (Utf8Reason × Nat) Nat
  | 0, _, bits, _ => .ok bits
  | _ + 1, read, _, [] => .error (.truncated, read)
  | count + 1, read, bits, byte :: rest =>
    if range.1 ≤ byte.toNat ∧ byte.toNat ≤ range.2 then
      continued (0x80, 0xBF) count (read + 1) (bits * 64 + byte.toNat % 64) rest
    else .error (.continuation, read)

/-- Decodes bytes, given the position of the first and the number of them that belong to a character
already read. -/
def decodeFrom : Nat → Nat → List UInt8 → Except Utf8Fault Text
  | _, _, [] => .ok []
  | skip + 1, position, _ :: rest => decodeFrom skip (position + 1) rest
  | 0, position, byte :: rest =>
    match lead? byte with
    | none => .error ⟨.start, position, 1, byte⟩
    | some (count, bits) =>
      match continued (secondRange byte) count 1 bits rest with
      | .error (reason, width) => .error ⟨reason, position, width, byte⟩
      | .ok code => do return Char.ofNat code :: (← decodeFrom count (position + 1) rest)

def decode (bytes : List UInt8) : Except Utf8Fault Text :=
  decodeFrom 0 0 bytes

end Utf8

end NestedStyles
