import DeviceScript.Data.Datum
import DeviceScript.Number.Numeral

/-! JSON documents that consist of ASCII alone, with one item or entry on a line. -/

namespace DeviceScript.Json

/-- The number of a UTF-16 unit after a backslash. -/
def escapedUnit (unit : Nat) : Text := "\\u" ++ Text.padded 16 4 unit

/-- The spelling of one code point inside a text. -/
def encodePoint (point : CodePoint) : Text :=
  let value := point.value
  if point = '"' || point = '\\' then ['\\', point]
  else if point = '\n' then "\\n"
  else if point = '\r' then "\\r"
  else if point = '\t' then "\\t"
  else if point = '\x08' then "\\b"
  else if point = '\x0c' then "\\f"
  else if 0x20 ≤ value && value < 0x7F then [point]
  else if value < 0x10000 then escapedUnit value
  else
    let offset := value - 0x10000
    escapedUnit (0xD800 + offset / 0x400) ++ escapedUnit (0xDC00 + offset % 0x400)

/-- A text between quotes. -/
def encodeText (text : Text) : Text := "\"" ++ text.flatMap encodePoint ++ "\""

def encodeReal : Binary64 → Text
  | .nan => "NaN"
  | .infinity negative => if negative then "-Infinity" else "Infinity"
  | number => Numeral.ofBinary64 number

/-- The start of a line at a nesting depth. -/
def newLine (depth : Nat) : Text := .scalar '\n' :: List.replicate (2 * depth) (.scalar ' ')

/-- Parts between brackets, each of them on a line of its own. -/
def enclose (depth : Nat) (left right : Text) (parts : List Text) : Text :=
  if parts = [] then left ++ right
  else
    left ++ newLine (depth + 1) ++ Text.join ("," ++ newLine (depth + 1)) parts ++ newLine depth
      ++ right

mutual

/-- A value inside the given number of brackets. -/
def encode (depth : Nat) : Datum → Text
  | .null => "null"
  | .boolean value => if value then "true" else "false"
  | .integer value => Text.ofInt value
  | .real value => encodeReal value
  | .text value => encodeText value
  | .moment value => encodeText value.cited
  | .list items => enclose depth "[" "]" (encodeItems (depth + 1) items)
  | .table entries => enclose depth "\x7b" "\x7d" (encodeEntries (depth + 1) entries)

def encodeItems (depth : Nat) : List Datum → List Text
  | [] => []
  | item :: items => encode depth item :: encodeItems depth items

def encodeEntries (depth : Nat) : List (Text × Datum) → List Text
  | [] => []
  | entry :: entries => encodeEntry depth entry :: encodeEntries depth entries

def encodeEntry (depth : Nat) : Text × Datum → Text
  | (key, value) => encodeText key ++ ": " ++ encode depth value

end

/-- The document of a value. -/
def document (value : Datum) : Text := encode 0 value

end DeviceScript.Json
