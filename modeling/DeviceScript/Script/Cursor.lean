import DeviceScript.Script.SyntaxError
import DeviceScript.Text.Category

/-! Positions in the text of a script, and what lies between its tokens. -/

namespace DeviceScript

namespace CodePoint

/-- White space between the tokens of a script. -/
def isScriptSpace (point : CodePoint) : Bool :=
  point.value = 0x09 || point.between 0x0B 0x0C || point.value = 0x20 || point.value = 0xA0
    || point.value = 0x1680 || point.value = 0x180E || point.between 0x2000 0x200A
    || point.value = 0x202F || point.value = 0x205F || point.value = 0x3000 || point.value = 0xFEFF

def isLineTerminator (point : CodePoint) : Bool :=
  point.value = 0x0A || point.value = 0x0D || point.between 0x2028 0x2029

/-- The first code points of identifiers; a backslash opens an escape. -/
def isIdentifierStart (point : CodePoint) : Bool :=
  if point.value < 0x80 then
    point.between 0x41 0x5A || point.between 0x61 0x7A || point.value = 0x24 || point.value = 0x5F
      || point.value = 0x5C
  else point.isLetter

/-- The further code points of identifiers. -/
def isIdentifierPart (point : CodePoint) : Bool :=
  point.isIdentifierStart || point.isDecimal
    || (0x80 ≤ point.value && (point.isJoiner || point.between 0x200C 0x200D))

end CodePoint

/-- A position in a text, with the text from there on. Lines count from one, everything else from
zero. -/
structure Cursor where
  rest : Text
  index : Nat
  line : Nat
  /-- The index at which the line starts. -/
  lineStart : Nat

namespace Cursor

/-- The start of a text; an empty text has no line. -/
def start (text : Text) : Cursor := ⟨text, 0, if text = [] then 0 else 1, 0⟩

def column (cursor : Cursor) : Int := (cursor.index : Int) - cursor.lineStart

def isAtEnd (cursor : Cursor) : Bool := cursor.rest.isEmpty

def next? (cursor : Cursor) : Option CodePoint := cursor.rest.head?

/-- Tells whether the text goes on with a given spelling. -/
def isAt (cursor : Cursor) (spelling : String) : Bool :=
  (Text.ofString spelling).isPrefixOf cursor.rest

/-- The position some code points further on in the same line. -/
def advance (cursor : Cursor) (count : Nat) : Cursor :=
  { cursor with rest := cursor.rest.drop count, index := cursor.index + count }

/-- The position at the start of the next line, behind the line terminator at the cursor. -/
def newLine (cursor : Cursor) : Cursor :=
  let count := if cursor.isAt "\r\n" then 2 else 1
  ⟨cursor.rest.drop count, cursor.index + count, cursor.line + 1, cursor.index + count⟩

/-- The position behind the longest run of code points in a class. -/
def skip (cursor : Cursor) (inClass : CodePoint → Bool) : Cursor :=
  cursor.advance (cursor.rest.takeWhile inClass).length

/-- The text from one position to a later one. -/
def slice (start stop : Cursor) : Text := start.rest.take (stop.index - start.index)

/-- A fault at a position. -/
def fault {α : Type} (cursor : Cursor) (fault : SyntaxFault) : Except SyntaxError α :=
  .error ⟨fault, cursor.line, cursor.column + 1⟩

/-- Anything that cannot be part of a token is an illegal character. -/
def illegal {α : Type} (cursor : Cursor) : Except SyntaxError α := cursor.fault .illegalCharacter

/-- The position behind a comment that ends with its line. -/
def skipLineComment (cursor : Cursor) : Cursor :=
  let stop := cursor.skip fun point => !point.isLineTerminator
  if stop.isAtEnd then stop else stop.newLine

/-- The position behind a comment that ends with an asterisk and a slash. -/
def skipBlockComment (cursor : Cursor) : Nat → Except SyntaxError Cursor
  | 0 => cursor.illegal
  | fuel + 1 =>
    if cursor.isAt "*/" then .ok (cursor.advance 2)
    else
      match cursor.next? with
      | none => cursor.illegal
      | some point =>
        if point.isLineTerminator then skipBlockComment cursor.newLine fuel
        else skipBlockComment (cursor.advance 1) fuel

/-- The position of the next token, where an arrow to the right opens a comment only at the start of
a line. -/
def skipBlanksFrom (lineOpen : Bool) (cursor : Cursor) : Nat → Except SyntaxError Cursor
  | 0 => .ok cursor
  | fuel + 1 =>
    match cursor.next? with
    | none => .ok cursor
    | some point =>
      if point.isScriptSpace then skipBlanksFrom lineOpen (cursor.advance 1) fuel
      else if point.isLineTerminator then skipBlanksFrom true cursor.newLine fuel
      else if cursor.isAt "//" then skipBlanksFrom true (cursor.advance 2).skipLineComment fuel
      else if cursor.isAt "/*" then do
        let stop ← (cursor.advance 2).skipBlockComment (cursor.rest.length + 1)
        skipBlanksFrom lineOpen stop fuel
      else if lineOpen && cursor.isAt "-->" then
        skipBlanksFrom lineOpen (cursor.advance 3).skipLineComment fuel
      else if cursor.isAt "<!--" then
        skipBlanksFrom lineOpen (cursor.advance 4).skipLineComment fuel
      else .ok cursor

/-- The position of the next token. -/
def skipBlanks (cursor : Cursor) : Except SyntaxError Cursor :=
  skipBlanksFrom (cursor.index = 0) cursor (cursor.rest.length + 1)

end Cursor

end DeviceScript
