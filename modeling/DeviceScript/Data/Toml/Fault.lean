import DeviceScript.Data.Cited

/-! The ways in which a text fails to be a TOML document. -/

namespace DeviceScript.Toml

/-- A dotted name, part by part. -/
abbrev Key := List Text

/-- The reason why a text is no TOML document. -/
inductive Fault where
  | statement
  | lineEnd
  | unclosed (mark : Text)
  | control (point : CodePoint)
  | illegal (point : CodePoint)
  | keyStart
  | equalsSign
  | tableEnd
  | arrayTableEnd
  | declaredTwice (key : Key)
  | fixedTable (key : Key)
  | openTable (key : Key)
  | overwritten
  | duplicate (name : Text)
  | date
  | value
  | arrayEnd
  | inlineTableEnd
  | backslash
  | hexadecimal
  | surrogate
  | textEnd
  deriving DecidableEq

/-- A key as it is cited in a message. -/
def Key.cited (key : Key) : Text := Datum.citedGroup (key.map Text.Cited.encode)

def Fault.message : Fault → Text
  | statement => "Invalid statement"
  | lineEnd => "Expected newline or end of document after a statement"
  | unclosed mark => "Expected " ++ Text.Cited.encode mark
  | control point => "Found invalid character " ++ Text.Cited.encode [point]
  | illegal point => "Illegal character " ++ Text.Cited.encode [point]
  | keyStart => "Invalid initial character for a key part"
  | equalsSign => "Expected '=' after a key in a key/value pair"
  | tableEnd => "Expected ']' at the end of a table declaration"
  | arrayTableEnd => "Expected ']]' at the end of an array declaration"
  | declaredTwice key => "Cannot declare " ++ key.cited ++ " twice"
  | fixedTable key => "Cannot mutate immutable namespace " ++ key.cited
  | openTable key => "Cannot redefine namespace " ++ key.cited
  | overwritten => "Cannot overwrite a value"
  | duplicate name => "Duplicate inline table key " ++ Text.Cited.encode name
  | date => "Invalid date or datetime"
  | value => "Invalid value"
  | arrayEnd => "Unclosed array"
  | inlineTableEnd => "Unclosed inline table"
  | backslash => "Unescaped '\\' in a string"
  | hexadecimal => "Invalid hex value"
  | surrogate => "Escaped character is not a Unicode scalar value"
  | textEnd => "Unterminated string"

/-- A fault and the number of code points that were not read yet when it was found. -/
structure Problem where
  fault : Fault
  unread : Nat
  deriving DecidableEq

/-- The line and column of a place in a text, counted from one, or the end of the document. -/
def place (source : Text) (unread : Nat) : Text :=
  if unread = 0 then "end of document"
  else
    let passed := source.take (source.length - unread)
    let column := (passed.reverse.takeWhile fun point => point ≠ .scalar '\n').length + 1
    "line " ++ Text.ofNat (Text.lines passed).length ++ ", column " ++ Text.ofNat column

/-- A fault with its place in the document. -/
def Problem.message (source : Text) (problem : Problem) : Text :=
  problem.fault.message ++ " (at " ++ place source problem.unread ++ ")"

/-- What stops the reading of a text. -/
inductive Stop where
  | problem (problem : Problem)
  /-- A decimal number has more digits than are read. -/
  | digits (count : Nat)
  deriving DecidableEq

/-- Why a text yields no table. -/
inductive Failure where
  /-- The text is no TOML document. -/
  | malformed (reason : Text)
  /-- The reader gives up, whether the text is a TOML document or not. -/
  | abandoned (reason : Text)
  deriving DecidableEq

/-- The greatest number of digits of a decimal number that is read. -/
def digitLimit : Nat := 4300

def Stop.failure (source : Text) : Stop → Failure
  | .problem found => .malformed (found.message source)
  | .digits count => .abandoned ("Exceeds the limit (" ++ Text.ofNat digitLimit
      ++ " digits) for integer string conversion: value has " ++ Text.ofNat count
      ++ " digits; use sys.set_int_max_str_digits() to increase the limit")

end DeviceScript.Toml
