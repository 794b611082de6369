import DeviceScript.Text.Basic

/-! Text as bytes. Every scalar value has one encoding; a surrogate has none, and neither has a
number beyond the last plane.
-/

namespace DeviceScript.Utf8

/-- A sequence that has begun: its first position, its bits so far, and what may follow. -/
structure Pending where
  start : Nat
  bits : Nat
  /-- The number of bytes that are still missing. -/
  owed : Nat
  /-- The bounds of the next byte. -/
  least : Nat
  greatest : Nat

/-- What a first byte begins, if it begins anything. -/
def Pending.ofFirst? (start byte : Nat) : Option Pending :=
  let usual (bits owed : Nat) : Option Pending := some ⟨start, bits, owed, 0x80, 0xBF⟩
  if byte < 0x80 then usual byte 0
  else if byte < 0xC2 then none
  else if byte < 0xE0 then usual (byte - 0xC0) 1
  else if byte = 0xE0 then some ⟨start, 0, 2, 0xA0, 0xBF⟩
  else if byte = 0xED then some ⟨start, 0xD, 2, 0x80, 0x9F⟩
  else if byte < 0xF0 then usual (byte - 0xE0) 2
  else if byte = 0xF0 then some ⟨start, 0, 3, 0x90, 0xBF⟩
  else if byte < 0xF4 then usual (byte - 0xF0) 3
  else if byte = 0xF4 then some ⟨start, 4, 3, 0x80, 0x8F⟩
  else none

/-- Why bytes are no text. -/
inductive Flaw where
  | firstByte | laterByte | tooShort
  deriving DecidableEq

/-- A sequence that is no text: its first position, and the position behind its readable part. -/
structure Malformed where
  flaw : Flaw
  first : Nat
  next : Nat
  deriving DecidableEq

def Flaw.reason : Flaw → Text
  | firstByte => "invalid start byte"
  | laterByte => "invalid continuation byte"
  | tooShort => "unexpected end of data"

/-- The complaint about a sequence of the given bytes that is no text. -/
def Malformed.message (bytes : List UInt8) (malformed : Malformed) : Text :=
  let bytes :=
    match (bytes.drop malformed.first).take (malformed.next - malformed.first) with
    | [byte] =>
      "byte 0x" ++ Text.padded 16 2 byte.toNat ++ " in position " ++ Text.ofNat malformed.first
    | _ =>
      "bytes in position " ++ Text.ofNat malformed.first ++ "-" ++ Text.ofNat (malformed.next - 1)
  "'utf-8' codec can't decode " ++ bytes ++ ": " ++ malformed.flaw.reason

/-- Reads on at a position, in the middle of a sequence or between two. -/
def decodeFrom (position : Nat) (pending : Option Pending) : List UInt8 → Except Malformed Text
  | [] =>
    match pending with
    | none => .ok []
    | some sequence => .error ⟨.tooShort, sequence.start, position⟩
  | byte :: bytes =>
    let advance (sequence : Pending) : Except Malformed Text :=
      if sequence.owed = 0 then do
        let text ← decodeFrom (position + 1) none bytes
        return ((CodePoint.ofNat? sequence.bits).getD default) :: text
      else decodeFrom (position + 1) (some sequence) bytes
    match pending with
    | none =>
      match Pending.ofFirst? position byte.toNat with
      | none => .error ⟨.firstByte, position, position + 1⟩
      | some sequence => advance sequence
    | some sequence =>
      if sequence.least ≤ byte.toNat ∧ byte.toNat ≤ sequence.greatest then
        let bits := sequence.bits * 0x40 + (byte.toNat - 0x80)
        advance ⟨sequence.start, bits, sequence.owed - 1, 0x80, 0xBF⟩
      else .error ⟨.laterByte, sequence.start, position⟩

/-- The text of a byte sequence, or the place of the first sequence that is none. -/
def decode (bytes : List UInt8) : Except Malformed Text := decodeFrom 0 none bytes

/-- The bytes of a scalar value. -/
def encodeValue (value : Nat) : List UInt8 :=
  let later (shift : Nat) : UInt8 := UInt8.ofNat (0x80 + value >>> shift % 0x40)
  if value < 0x80 then [UInt8.ofNat value]
  else if value < 0x800 then [UInt8.ofNat (0xC0 + value >>> 6), later 0]
  else if value < 0x10000 then [UInt8.ofNat (0xE0 + value >>> 12), later 6, later 0]
  else [UInt8.ofNat (0xF0 + value >>> 18), later 12, later 6, later 0]

/-- The bytes of a text, if it holds no surrogate. -/
def encode? : Text → Option (List UInt8)
  | [] => some []
  | .surrogate _ :: _ => none
  | .scalar char :: text => (encode? text).map fun bytes => encodeValue char.toNat ++ bytes

/-- The complaint about the first surrogates of a text, from one on that may not stand in it. -/
def surrogateMessage (isAllowed : CodePoint → Bool) (text : Text) : Text :=
  let isSurrogate (point : CodePoint) : Bool := point.between 0xD800 0xDFFF
  let first := (text.takeWhile fun point => !isSurrogate point || isAllowed point).length
  let run := (text.drop first).takeWhile isSurrogate
  let range :=
    match run with
    | [point] =>
      "character '\\u" ++ Text.padded 16 4 point.value ++ "' in position " ++ Text.ofNat first
    | _ =>
      "characters in position " ++ Text.ofNat first ++ "-" ++ Text.ofNat (first + run.length - 1)
  "'utf-8' codec can't encode " ++ range ++ ": surrogates not allowed"

end DeviceScript.Utf8
