import DeviceScript.Data.Datum
import DeviceScript.Number.Numeral
import DeviceScript.Regex.Unescaped
import DeviceScript.Script.Cursor

/-! Tokens of scripts and their spelling. -/

namespace DeviceScript

inductive TokenKind where
  | boolean | endOfInput | identifier | keyword | null | numeric | pattern | punctuator | string
  | template
  deriving DecidableEq

/-- A token. The line is the one on which it ends. -/
structure Token where
  kind : TokenKind
  /-- The name, the contents or the spelling of the token. -/
  text : Text
  raw : Text
  start : Nat
  line : Nat
  lineStart : Nat
  /-- The value of a number. -/
  number : Datum := .null
  /-- Tells whether a number or an escape is spelled in octal the old way. -/
  octal : Bool := false
  /-- Tells whether a piece of a template opens it. -/
  head : Bool := false
  /-- Tells whether a piece of a template closes it. -/
  tail : Bool := false

namespace Token

/-- The token between two positions. -/
def between (kind : TokenKind) (text : Text) (start stop : Cursor) : Token where
  kind := kind
  text := text
  raw := start.slice stop
  start := start.index
  line := stop.line
  lineStart := stop.lineStart

/-- The column at which a token starts in the line on which it ends. -/
def column (token : Token) : Int := (token.start : Int) - token.lineStart

def keywords : List String :=
  ["if", "in", "do", "var", "for", "new", "try", "let", "this", "else", "case", "void", "with",
    "enum", "while", "break", "catch", "throw", "const", "yield", "class", "super", "return",
    "typeof", "delete", "switch", "export", "import", "default", "finally", "extends", "function",
    "continue", "debugger", "instanceof"]

/-- The words that are reserved in strict code only. -/
def strictWords : List String :=
  ["implements", "interface", "package", "private", "protected", "public", "static", "yield", "let"]

/-- The words that no version of the language has given a use yet, or that have one in special
places. -/
def reservedWords : List String := ["enum", "export", "import", "super"]

def isOneOf (words : List String) (text : Text) : Bool :=
  words.any fun word => Text.ofString word = text

/-- The names that strict code may not bind. -/
def isRestricted (name : Text) : Bool := name = "eval" || name = "arguments"

/-- The kind of a word. -/
def wordKind (word : Text) : TokenKind :=
  if isOneOf keywords word then .keyword
  else if word = "null" then .null
  else if word = "true" || word = "false" then .boolean
  else .identifier

/-- The punctuators, where a longer one stands before its beginnings. -/
def punctuators : List String :=
  ["\x7b", "(", ")", ";", ",", "[", "]", ":", "?", "~", "...", ".", "\x7d", ">>>=", "===", "!==",
    ">>>", "<<=", ">>=", "**=", "&&", "||", "==", "!=", "+=", "-=", "*=", "/=", "++", "--", "<<",
    ">>", "&=", "|=", "^=", "%=", "<=", ">=", "=>", "**", "<", ">", "=", "!", "+", "-", "*", "%",
    "&", "|", "^", "/"]

end Token

namespace Cursor

/-- The code point of a number that is at most `0x10FFFF`. -/
def pointOf (value : Nat) : CodePoint := (CodePoint.ofNat? value).getD default

/-- A fixed number of hexadecimal digits, or the position of what is none. -/
def hexadecimal (count : Nat) (cursor : Cursor) : Except Cursor (CodePoint × Cursor) :=
  let digits := (cursor.rest.take count).takeWhile CodePoint.isHexadecimal
  let stop := cursor.advance digits.length
  if digits.length = count then .ok (pointOf (Text.toNat 16 digits), stop) else .error stop

/-- The hexadecimal number of a code point before a closing brace. -/
def bracedHexadecimal (cursor : Cursor) : Except SyntaxError (CodePoint × Cursor) :=
  let digits := cursor.rest.takeWhile CodePoint.isHexadecimal
  let stop := cursor.advance digits.length
  match stop.next? with
  | none => stop.illegal
  | some mark =>
    if digits = [] && mark = '\x7d' then stop.illegal
    else if mark ≠ '\x7d' || 0x10FFFF < Text.toNat 16 digits then (stop.advance 1).illegal
    else .ok (pointOf (Text.toNat 16 digits), stop.advance 1)

/-- The code point of an escape in an identifier, behind its backslash. -/
def identifierEscape (allowed : CodePoint → Bool) (cursor : Cursor)
    : Except SyntaxError (CodePoint × Cursor) :=
  if !cursor.isAt "u" then cursor.illegal
  else if cursor.isAt "u\x7b" then (cursor.advance 2).bracedHexadecimal
  else
    match (cursor.advance 1).hexadecimal 4 with
    | .error stop => stop.illegal
    | .ok (point, stop) =>
      if point = '\\' || !allowed point then stop.illegal else .ok (point, stop)

/-- The rest of an identifier, whose code points so far are given in reverse. -/
def identifierRest (name : Text) (cursor : Cursor) : Nat → Except SyntaxError (Text × Cursor)
  | 0 => .ok (name.reverse, cursor)
  | fuel + 1 =>
    match cursor.next? with
    | none => .ok (name.reverse, cursor)
    | some point =>
      if point = '\\' then do
        let (point, stop) ← (cursor.advance 1).identifierEscape CodePoint.isIdentifierPart
        identifierRest (point :: name) stop fuel
      else if point.isIdentifierPart then
        identifierRest (point :: name) (cursor.advance 1) fuel
      else .ok (name.reverse, cursor)

/-- An identifier, a keyword or a named literal. -/
def word (cursor : Cursor) : Except SyntaxError (Token × Cursor) := do
  let (first, next) ←
    if cursor.isAt "\\" then (cursor.advance 1).identifierEscape CodePoint.isIdentifierStart
    else pure (cursor.next?.getD default, cursor.advance 1)
  let (name, stop) ← identifierRest [first] next (cursor.rest.length + 1)
  let token := Token.between (Token.wordKind name) name cursor stop
  if token.kind ≠ .identifier && name.length ≠ token.raw.length then
    cursor.fault .escapedReservedWord
  else return (token, stop)

/-- The value of a decimal numeral: an integer if its nearest double is whole. -/
def decimalValue (spelling : Text) : Datum :=
  match Numeral.readUnsigned? false spelling with
  | none => .null
  | some value =>
    match value.toInt? with
    | some whole => .integer whole
    | none => .real value

/-- A number in a base other than ten, from its first digit on. -/
def based (start : Cursor) (base : Nat) (octal : Bool) (isDigit : CodePoint → Bool)
    (cursor : Cursor) : Except SyntaxError (Token × Cursor) :=
  let digits := cursor.rest.takeWhile isDigit
  let stop := cursor.advance digits.length
  let runsOn := stop.next?.any fun point =>
    point.isIdentifierStart || (base ≠ 16 && point.isDecimal)
  if digits = [] || runsOn then stop.illegal
  else
    let token := Token.between .numeric digits start stop
    .ok ({ token with number := .integer (Text.toNat base digits), octal := octal }, stop)

/-- Tells whether the digits behind a leading zero make an octal number, there being no 8 or 9
before the first code point that is no octal digit. -/
def isOldOctal (cursor : Cursor) : Bool :=
  match cursor.rest with
  | first :: rest =>
    first.isOctal &&
      match rest.dropWhile CodePoint.isOctal with
      | point :: _ => !point.between 0x38 0x39
      | [] => true
  | [] => false

/-- The exponent of a decimal number, if there is one. -/
def exponent (cursor : Cursor) : Except SyntaxError Cursor :=
  if cursor.isAt "e" || cursor.isAt "E" then
    let digits := cursor.advance (if cursor.isAt "e+" || cursor.isAt "e-" || cursor.isAt "E+"
      || cursor.isAt "E-" then 2 else 1)
    let stop := digits.skip CodePoint.isDecimal
    if stop.index = digits.index then digits.illegal else .ok stop
  else .ok cursor

/-- A number. -/
def number (cursor : Cursor) : Except SyntaxError (Token × Cursor) :=
  let second := cursor.advance 1
  if cursor.isAt "0x" || cursor.isAt "0X" then
    based cursor 16 false CodePoint.isHexadecimal (cursor.advance 2)
  else if cursor.isAt "0b" || cursor.isAt "0B" then
    based cursor 2 false (fun point => point.between 0x30 0x31) (cursor.advance 2)
  else if cursor.isAt "0o" || cursor.isAt "0O" then
    based cursor 8 false CodePoint.isOctal (cursor.advance 2)
  else if cursor.isAt "0" && second.isOldOctal then based cursor 8 true CodePoint.isOctal second
  else do
    let whole := cursor.skip CodePoint.isDecimal
    let fraction := if whole.isAt "." then (whole.advance 1).skip CodePoint.isDecimal else whole
    let stop ← fraction.exponent
    if stop.next?.any CodePoint.isIdentifierStart then stop.illegal
    else
      let token := Token.between .numeric (cursor.slice stop) cursor stop
      return ({ token with number := decimalValue (cursor.slice stop) }, stop)

/-- The code point of an octal escape, and whether it is more than the escape of the null
character. -/
def octalEscape (cursor : Cursor) : CodePoint × Bool × Cursor :=
  let limit := if (cursor.next?.getD default).between 0x30 0x33 then 3 else 2
  let digits := (cursor.rest.take limit).takeWhile CodePoint.isOctal
  (pointOf (Text.toNat 8 digits), digits ≠ "0", cursor.advance digits.length)

/-- What a letter behind a backslash stands for. -/
def letterEscape (letter : CodePoint) : CodePoint :=
  if letter = 'n' then '\n'
  else if letter = 'r' then '\r'
  else if letter = 't' then '\t'
  else if letter = 'b' then '\x08'
  else if letter = 'f' then '\x0c'
  else if letter = 'v' then '\x0b'
  else letter

/-- The code point of an escape in a string, from behind its backslash, and whether it is an octal
one. -/
def stringEscape (mark : CodePoint) (cursor : Cursor)
    : Except SyntaxError (CodePoint × Bool × Cursor) :=
  if cursor.isAt "u\x7b" then do
    let (point, stop) ← (cursor.advance 2).bracedHexadecimal
    return (point, false, stop)
  else if mark = 'u' then
    match (cursor.advance 1).hexadecimal 4 with
    | .ok (point, stop) => .ok (point, false, stop)
    | .error stop => stop.illegal
  else if mark = 'x' then
    match (cursor.advance 1).hexadecimal 2 with
    | .ok (point, stop) => .ok (point, false, stop)
    | .error stop => stop.fault .invalidHexadecimalEscape
  else if mark.isOctal then .ok cursor.octalEscape
  else if mark.isDecimal then (cursor.advance 1).illegal
  else .ok (letterEscape mark, false, cursor.advance 1)

/-- The rest of a string up to its quote; what it holds so far is given in reverse. A string without
an end is reported where it starts. -/
def stringRest (opening : Cursor) (quote : CodePoint) (octal : Bool) (text : Text) (cursor : Cursor)
    : Nat → Except SyntaxError (Text × Bool × Cursor)
  | 0 => { cursor with index := opening.index }.illegal
  | fuel + 1 =>
    match cursor.rest with
    | [] => { cursor with index := opening.index }.illegal
    | point :: rest =>
      if point = quote then .ok (text.reverse, octal, cursor.advance 1)
      else if point = '\\' then
        match rest with
        | [] => { cursor with index := opening.index }.illegal
        | mark :: _ =>
          let escape := cursor.advance 1
          if mark.isLineTerminator then stringRest opening quote octal text escape.newLine fuel
          else do
            let (point, isOctal, stop) ← stringEscape mark escape
            stringRest opening quote (octal || isOctal) (point :: text) stop fuel
      else if point.isLineTerminator then { cursor with index := opening.index }.illegal
      else stringRest opening quote octal (point :: text) (cursor.advance 1) fuel

/-- A string literal. -/
def string (quote : CodePoint) (cursor : Cursor) : Except SyntaxError (Token × Cursor) := do
  let (text, octal, stop) ←
    stringRest cursor quote false [] (cursor.advance 1) (cursor.rest.length + 1)
  return ({ Token.between .string text cursor stop with octal := octal }, stop)

/-- The position behind an escape in a template, from behind its backslash. -/
def templateEscape (mark : CodePoint) (cursor : Cursor) : Except SyntaxError Cursor :=
  let next := cursor.advance 1
  if mark.isLineTerminator then .ok cursor.newLine
  else if cursor.isAt "u\x7b" then (cursor.advance 2).bracedHexadecimal.map Prod.snd
  else if mark = 'u' then
    match next.hexadecimal 4 with
    | .ok (_, stop) => .ok stop
    | .error _ => .ok next
  else if mark = 'x' then
    match next.hexadecimal 2 with
    | .ok (_, stop) => .ok stop
    | .error stop => stop.fault .invalidHexadecimalEscape
  else if mark = '0' then
    if next.next?.any CodePoint.isDecimal then next.fault .octalInTemplate else .ok next
  else if mark.isOctal then next.fault .octalInTemplate
  else .ok next

/-- The end of a piece of a template, and whether it is the end of the template. -/
def templateRest (cursor : Cursor) : Nat → Except SyntaxError (Bool × Cursor)
  | 0 => cursor.illegal
  | fuel + 1 =>
    match cursor.rest with
    | [] => cursor.illegal
    | point :: rest =>
      if point = '\x60' then .ok (true, cursor.advance 1)
      else if cursor.isAt "$\x7b" then .ok (false, cursor.advance 2)
      else if point = '\\' then
        match rest with
        | [] => (cursor.advance 2).illegal
        | mark :: _ => do
          let stop ← templateEscape mark (cursor.advance 1)
          templateRest stop fuel
      else if point.isLineTerminator then templateRest cursor.newLine fuel
      else templateRest (cursor.advance 1) fuel

/-- A piece of a template. -/
def template (head : Bool) (cursor : Cursor) : Except SyntaxError (Token × Cursor) := do
  let (tail, stop) ← (cursor.advance 1).templateRest (cursor.rest.length + 1)
  let raw := cursor.slice stop
  let text := (raw.drop 1).take (raw.length - (if tail then 2 else 3))
  return ({ Token.between .template text cursor stop with head := head, tail := tail }, stop)

/-- The end of the body of a regular expression, whose classes may hold slashes. -/
def patternRest (inClass : Bool) (cursor : Cursor) : Nat → Except SyntaxError Cursor
  | 0 => cursor.fault .unterminatedPattern
  | fuel + 1 =>
    match cursor.rest with
    | [] => cursor.fault .unterminatedPattern
    | point :: rest =>
      let next := cursor.advance 1
      if point = '\\' then
        match rest with
        | [] => (cursor.advance 2).fault .unterminatedPattern
        | mark :: _ =>
          if mark.isLineTerminator then (cursor.advance 2).fault .unterminatedPattern
          else patternRest inClass (cursor.advance 2) fuel
      else if point.isLineTerminator then next.fault .unterminatedPattern
      else if inClass then patternRest (point ≠ ']') next fuel
      else if point = '/' then .ok next
      else patternRest (point = '[') next fuel

/-- The position behind the flags of a regular expression. They may be spelled with any letters, but
with no escapes. -/
def patternFlags (cursor : Cursor) : Except SyntaxError Cursor :=
  let stop := cursor.skip fun point => point.isIdentifierPart && point ≠ '\\'
  if stop.isAt "\\" then
    let escape := stop.advance 1
    if escape.isAtEnd then .ok escape
    else if escape.isAt "u" then
      match (escape.advance 1).hexadecimal 4 with
      | .ok (_, stop) => stop.illegal
      | .error _ => (escape.advance 1).illegal
    else escape.illegal
  else .ok stop

/-- A regular expression with its flags. -/
def pattern (cursor : Cursor) : Except SyntaxError (Token × Cursor) := do
  let opening := cursor.advance 1
  let body ← opening.patternRest false (cursor.rest.length + 1)
  let stop ← body.patternFlags
  if Regex.isValidUnder (body.slice stop) (opening.slice body).dropLast then
    return (Token.between .pattern [] cursor stop, stop)
  else stop.fault .invalidPattern

/-- A punctuator. -/
def punctuator (cursor : Cursor) : Except SyntaxError (Token × Cursor) :=
  match Token.punctuators.find? cursor.isAt with
  | none => cursor.illegal
  | some spelling =>
    let stop := cursor.advance spelling.length
    .ok (Token.between .punctuator spelling cursor stop, stop)

/-- The token at a position. In a template a brace that closes a substitution opens its next
piece. -/
def token (inSubstitution : Bool) (cursor : Cursor) : Except SyntaxError (Token × Cursor) :=
  match cursor.rest with
  | [] => .ok (Token.between .endOfInput [] cursor cursor, cursor)
  | point :: rest =>
    if point.isIdentifierStart then cursor.word
    else if point = '"' || point = '\x27' then cursor.string point
    else if point.isDecimal || (point = '.' && rest.head?.any CodePoint.isDecimal) then
      cursor.number
    else if point = '\x60' then cursor.template true
    else if point = '\x7d' && inSubstitution then cursor.template false
    else cursor.punctuator

end Cursor

end DeviceScript
