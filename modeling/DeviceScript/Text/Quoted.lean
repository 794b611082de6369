import DeviceScript.Text.Basic

/-! The spelling of a text as a C++ string literal. Control codes are written as three octal digits,
so an escape never merges with a digit that follows it.
-/

namespace DeviceScript.Text.Quoted

/-- The spelling of one code point between the quotes. -/
def encodePoint (point : CodePoint) : Text :=
  if point = '\\' then "\\\\"
  else if point = '"' then "\\\""
  else if point = '\n' then "\\n"
  else if point = '\r' then "\\r"
  else if point = '\t' then "\\t"
  else if point.value < 0x20 || point.value = 0x7F then "\\" ++ Text.padded 8 3 point.value
  else [point]

/-- A text between quotes, with its quotes, backslashes and control codes escaped. -/
def encode (text : Text) : Text := "\"" ++ text.flatMap encodePoint ++ "\""

end DeviceScript.Text.Quoted
