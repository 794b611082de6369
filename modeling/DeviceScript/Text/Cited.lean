import DeviceScript.Text.Category

/-! The way a text is cited in a message: between quotes, with everything unprintable escaped. -/

namespace DeviceScript.Text.Cited

/-- Single quotes mark a citation, unless the text holds a single quote and no double one. -/
def mark (text : Text) : CodePoint :=
  if text.contains (.scalar '\x27') && !text.contains (.scalar '"') then '"' else '\x27'

/-- The spelling of one code point inside a citation with the given quotes. -/
def encodePoint (quote point : CodePoint) : Text :=
  if point = quote || point = '\\' then ['\\', point]
  else if point = '\n' then "\\n"
  else if point = '\r' then "\\r"
  else if point = '\t' then "\\t"
  else if point.isPrintable then [point]
  else if point.value < 0x100 then "\\x" ++ Text.padded 16 2 point.value
  else if point.value < 0x10000 then "\\u" ++ Text.padded 16 4 point.value
  else "\\U" ++ Text.padded 16 8 point.value

/-- A text as it is cited in a message. -/
def encode (text : Text) : Text :=
  let quote := mark text
  [quote] ++ text.flatMap (encodePoint quote) ++ [quote]

end DeviceScript.Text.Cited
