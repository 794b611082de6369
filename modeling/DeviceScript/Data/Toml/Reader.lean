import DeviceScript.Data.Toml.Fault

/-! Reading of the small parts of a TOML document: blanks, comments, keys and texts. -/

namespace DeviceScript.Toml

/-- A reader consumes the front of the document and may be stopped there. -/
abbrev Read := StateT Text (Except Stop)

namespace Read

def fail {α : Type} (fault : Fault) : Read α := fun rest => .error (.problem ⟨fault, rest.length⟩)

def peek : Read (Option CodePoint) := return (← get).head?

def skip (count : Nat) : Read Unit := modify (·.drop count)

/-- Tells whether the document goes on with a mark. -/
def sees (mark : Text) : Read Bool := return (← get).startsWith mark

/-- Reads a mark, if the document goes on with it. -/
def accepts (mark : Text) : Read Bool := do
  if ← sees mark then
    skip mark.length
    return true
  return false

/-- Reads all code points of a class up to the first one outside of it. -/
def takeWhile (inside : CodePoint → Bool) : Read Text := do
  let rest ← get
  set (rest.dropWhile inside)
  return rest.takeWhile inside

end Read

open Read

def isSpace (point : CodePoint) : Bool := point = ' ' || point = '\t'

def isSpaceOrLineFeed (point : CodePoint) : Bool := isSpace point || point = '\n'

/-- Control codes other than the tabulator may not stand anywhere. -/
def isControl (point : CodePoint) : Bool :=
  (point.value < 0x20 || point.value = 0x7F) && point ≠ '\t'

/-- Control codes that may not stand in a text of several lines. -/
def isControlInLines (point : CodePoint) : Bool := isControl point && point ≠ '\n'

def isBareKey (point : CodePoint) : Bool :=
  point.isDecimal || point.between 0x41 0x5A || point.between 0x61 0x7A
    || point = '-' || point = '_'

def skipSpace : Read Unit := do
  let _ ← takeWhile isSpace

/-- Reads a text without forbidden code points up to a mark, but not the mark itself. -/
def upTo (mark : Text) (forbidden : CodePoint → Bool) : Read Text := do
  let rest ← get
  let content := Text.before mark rest
  set (rest.dropWhile fun point => !forbidden point)
  match content.find? forbidden with
  | some point => fail (.control point)
  | none =>
    set (rest.drop content.length)
    return content

/-- Skips a comment, which ends before a line feed. -/
def skipComment : Read Unit := do
  if ← accepts "#" then
    let _ ← upTo "\n" isControl

/-- Skips blanks, line feeds and comments as long as there are any. -/
def skipLines : Nat → Read Unit
  | 0 => return
  | fuel + 1 => do
    let _ ← takeWhile isSpaceOrLineFeed
    if (← peek) = some '#' then
      skipComment
      skipLines fuel

/-- Reads a text without escapes up to its closing mark. -/
def literalText (mark : Text) (forbidden : CodePoint → Bool) : Read Text := do
  let rest ← get
  if !rest.includes mark then
    set ([] : Text)
    fail (.unclosed mark)
  let content ← upTo mark forbidden
  skip mark.length
  return content

/-- Reads the digits of an escaped number. -/
def escapedNumber (width : Nat) : Read Text := do
  let digits := (← get).take width
  if digits.length ≠ width || !digits.all CodePoint.isHexadecimal then fail .hexadecimal
  skip width
  match CodePoint.ofNat? (Text.toNat 16 digits) with
  | some (.scalar char) => return [.scalar char]
  | _ => fail .surrogate

/-- Reads what follows a backslash; in a text of several lines a line may end there. -/
def escape (multiline : Bool) : Read Text := do
  let next ← peek
  if multiline && (next.map isSpaceOrLineFeed).getD false then
    skipSpace
    match ← peek with
    | none => return []
    | some point =>
      if point ≠ '\n' then fail .backslash
      let _ ← takeWhile isSpaceOrLineFeed
      return []
  else
    skip 1
    match next with
    | some (.scalar 'b') => return "\x08"
    | some (.scalar 't') => return "\t"
    | some (.scalar 'n') => return "\n"
    | some (.scalar 'f') => return "\x0c"
    | some (.scalar 'r') => return "\r"
    | some (.scalar '"') => return "\""
    | some (.scalar '\\') => return "\\"
    | some (.scalar 'u') => escapedNumber 4
    | some (.scalar 'U') => escapedNumber 8
    | _ => fail .backslash

/-- Reads a text with escapes up to its closing mark. -/
def basicText (multiline : Bool) : Nat → Read Text
  | 0 => fail .textEnd
  | fuel + 1 => do
    let plain ← takeWhile fun point =>
      point ≠ '"' && point ≠ '\\'
        && !(if multiline then isControlInLines point else isControl point)
    match ← peek with
    | none => fail .textEnd
    | some (.scalar '"') =>
      if multiline then
        if ← accepts "\"\"\"" then return plain
        skip 1
        return plain ++ "\"" ++ (← basicText multiline fuel)
      skip 1
      return plain
    | some (.scalar '\\') =>
      skip 1
      let escaped ← escape multiline
      return plain ++ escaped ++ (← basicText multiline fuel)
    | some point => fail (.illegal point)

/-- Up to two quotes directly behind a text of several lines still belong to it. -/
def trailingQuotes (quote : Text) : Read Text := do
  if ← accepts quote then
    if ← accepts quote then return quote ++ quote
    return quote
  return []

/-- The steps that are enough for anything that is still to be read. -/
def steps : Read Nat := return 2 * (← get).length + 2

/-- Reads a text in double quotes. -/
def doubleQuoted : Read Text := do
  skip 1
  basicText false (← steps)

/-- Reads a text in single quotes. -/
def singleQuoted : Read Text := do
  skip 1
  literalText "'" isControl

/-- Reads a text in three quotes; a line feed directly behind them does not count. -/
def tripleQuoted (quote : Text) : Read Text := do
  skip 3
  let _ ← accepts "\n"
  let content ←
    if quote = "\"" then basicText true (← steps) else literalText "'''" isControlInLines
  return content ++ (← trailingQuotes quote)

/-- Reads one part of a key. -/
def keyPart : Read Text := do
  match ← peek with
  | some (.scalar '"') => doubleQuoted
  | some (.scalar '\x27') => singleQuoted
  | some point => if isBareKey point then takeWhile isBareKey else fail .keyStart
  | none => fail .keyStart

/-- Reads the parts of a key that follow its first one. -/
def keyRest : Nat → Read Key
  | 0 => return []
  | fuel + 1 => do
    skipSpace
    if ← accepts "." then
      skipSpace
      let part ← keyPart
      return part :: (← keyRest fuel)
    return []

/-- Reads a dotted key. -/
def key : Read Key := do
  let part ← keyPart
  return part :: (← keyRest (← steps))

end DeviceScript.Toml
