import DeviceScript.Script.Token

/-! The state of reading a script: one token ahead, and what the surrounding constructs allow. -/

namespace DeviceScript

/-- A place in a script, where columns count from zero. -/
structure Mark where
  index : Nat
  line : Int
  column : Int

def Cursor.mark (cursor : Cursor) : Mark := ⟨cursor.index, cursor.line, cursor.column⟩

/-- What has been read, and the context in which reading goes on. -/
structure Reader where
  /-- The position behind the next token. -/
  cursor : Cursor
  /-- The position of the next token. -/
  ahead : Cursor
  next : Token
  /-- The place of the next token. -/
  startMark : Mark
  /-- The place behind the last token. -/
  lastMark : Mark
  /-- Tells whether a line ends between the last token and the next. -/
  lineBreak : Bool := false
  /-- The open braces, innermost first, and whether each opens a substitution of a template. -/
  braces : List Bool := []
  allowAwait : Bool := false
  allowIn : Bool := true
  allowStrictDirective : Bool := true
  allowYield : Bool := true
  /-- The first initialiser that only a pattern may have. -/
  patternOnly : Option Token := none
  isTarget : Bool := false
  isBinding : Bool := false
  inFunction : Bool := false
  inIteration : Bool := false
  inSwitch : Bool := false
  labels : List Text := []
  strict : Bool := false
  /-- The names that a pattern binds, the latest first. -/
  bound : List Token := []

abbrev Parse := StateT Reader (Except Unreadable)

namespace Reader

/-- The braces that are open behind a token. -/
def bracesAfter (braces : List Bool) (token : Token) : List Bool :=
  match token.kind with
  | .punctuator =>
    if token.text = "\x7b" then false :: braces
    else if token.text = "\x7d" then braces.drop 1
    else braces
  | .template =>
    if token.head && !token.tail then true :: braces
    else if !token.head && token.tail then braces.drop 1
    else braces
  | _ => braces

/-- The token behind a position. -/
def tokenAfter (reader : Reader) (cursor : Cursor)
    : Except SyntaxError (Token × Cursor × Cursor) := do
  let ahead ← cursor.skipBlanks
  let (token, stop) ← ahead.token (reader.braces.head? = some true)
  return (token, ahead, stop)

/-- Goes on to the token behind the next one. -/
def step (reader : Reader) : Except SyntaxError Reader := do
  let (token, ahead, stop) ← reader.tokenAfter reader.cursor
  let kind :=
    if reader.strict && token.kind = .identifier && Token.isOneOf Token.strictWords token.text then
      TokenKind.keyword
    else token.kind
  return { reader with
    cursor := stop
    ahead := ahead
    next := { token with kind := kind }
    startMark := if ahead.index = reader.startMark.index then reader.startMark else ahead.mark
    lastMark := reader.cursor.mark
    lineBreak := reader.next.line ≠ token.line
    braces := bracesAfter reader.braces token }

/-- The state in which a text is read. -/
def start (text : Text) : Except SyntaxError Reader := do
  let cursor := Cursor.start text
  let blank := Token.between .endOfInput [] cursor cursor
  let reader ← step
    { cursor := cursor, ahead := cursor, next := blank, startMark := cursor.mark,
      lastMark := cursor.mark }
  return { reader with lastMark := reader.cursor.mark }

end Reader

namespace Parse

def fail {α : Type} (fault : SyntaxFault) (line column : Int) : Parse α :=
  throw (.refused ⟨fault, line, column⟩)

/-- Goes on with what lies at a position, unless there is a fault in it. -/
def scanned {α : Type} (result : Except SyntaxError α) : Parse α :=
  StateT.lift (result.mapError .refused)

/-- A fault noticed behind the last token. -/
def failBehind {α : Type} (fault : SyntaxFault) : Parse α := do
  let mark := (← get).lastMark
  fail fault mark.line (mark.column + 1)

/-- A fault noticed behind the last token, reported on the line of the next one. -/
def failBefore {α : Type} (fault : SyntaxFault) : Parse α := do
  let reader ← get
  fail fault reader.cursor.line (reader.lastMark.column + 1)

/-- A fault of a token. -/
def failAt {α : Type} (token : Token) (fault : SyntaxFault) : Parse α := do
  let mark := (← get).lastMark
  fail fault token.line (token.start - (mark.index - mark.column) + 1)

/-- The fault of a token that cannot stand where it does. -/
def misplaced (strict : Bool) (token : Token) : SyntaxFault :=
  match token.kind with
  | .endOfInput => .unexpectedEnd
  | .identifier => .unexpectedIdentifier
  | .numeric => .unexpectedNumber
  | .string => .unexpectedString
  | .template => .unexpectedTemplate token.text
  | .keyword =>
    if Token.isOneOf Token.reservedWords token.text then .unexpectedReservedWord
    else if strict && Token.isOneOf Token.strictWords token.text then .strictReservedWord
    else .unexpectedToken token.text
  | _ => .unexpectedToken token.text

/-- Refuses a token. -/
def unexpected {α : Type} (token : Token) : Parse α := do
  failAt token (misplaced (← get).strict token)

def peek : Parse Token := return (← get).next

/-- Takes the next token. -/
def advance : Parse Token := do
  let reader ← get
  set (← scanned reader.step)
  return reader.next

/-- Refuses the next token after taking it. -/
def unexpectedNext {α : Type} : Parse α := do unexpected (← advance)

def isPunctuator (spelling : String) : Parse Bool := do
  let token := (← get).next
  return token.kind = .punctuator && token.text = Text.ofString spelling

def isKeyword (word : String) : Parse Bool := do
  let token := (← get).next
  return token.kind = .keyword && token.text = Text.ofString word

/-- Tells whether the next token is a name that has a meaning in some places. -/
def isContextual (word : String) : Parse Bool := do
  let token := (← get).next
  return token.kind = .identifier && token.text = Text.ofString word

def expect (spelling : String) : Parse Unit := do
  let token ← advance
  if token.kind ≠ .punctuator || token.text ≠ Text.ofString spelling then unexpected token

def expectKeyword (word : String) : Parse Unit := do
  let token ← advance
  if token.kind ≠ .keyword || token.text ≠ Text.ofString word then unexpected token

/-- Takes a semicolon, or does without one where a line, a block or the script ends. -/
def endStatement : Parse Unit := do
  if ← isPunctuator ";" then
    let _ ← advance
  else
    let reader ← get
    if !reader.lineBreak then
      if reader.next.kind ≠ .endOfInput && !(← isPunctuator "\x7d") then unexpected reader.next
      set { reader with lastMark := reader.startMark }

/-- The place of the next token. -/
def here : Parse Mark := return (← get).startMark

/-- Repeats a step until it yields nothing. -/
def repeatFor {α : Type} (step : Parse (Option α)) : Nat → Parse (List α)
  | 0 => failBehind .nestingTooDeep
  | fuel + 1 => do
    match ← step with
    | none => return []
    | some item =>
      let items ← repeatFor step fuel
      return item :: items

/-- Repeats a step, which takes at least one token each time, until it yields nothing. -/
def many {α : Type} (step : Parse (Option α)) : Parse (List α) := do
  repeatFor step ((← get).cursor.rest.length + 3)

/-- Repeats a step on a value, which takes at least one token each time, until it leaves the value
alone. -/
def extend {α : Type} (step : α → Parse (Option α)) (value : α) : Parse α := do
  let rec go (value : α) : Nat → Parse α
    | 0 => failBehind .nestingTooDeep
    | fuel + 1 => do
      match ← step value with
      | none => return value
      | some next => go next fuel
  go value ((← get).cursor.rest.length + 3)

/-- Reads something that stands on its own, whose failure to be a pattern is final. -/
def isolated {α : Type} (action : Parse α) : Parse α := do
  let outer ← get
  set { outer with isBinding := true, isTarget := true, patternOnly := none }
  let result ← action
  if let some token := (← get).patternOnly then unexpected token
  modify fun reader => { reader with
    isBinding := outer.isBinding
    isTarget := outer.isTarget
    patternOnly := outer.patternOnly }
  return result

/-- Reads something that may turn out to be part of a pattern. -/
def inherited {α : Type} (action : Parse α) : Parse α := do
  let outer ← get
  set { outer with isBinding := true, isTarget := true, patternOnly := none }
  let result ← action
  modify fun reader => { reader with
    isBinding := reader.isBinding && outer.isBinding
    isTarget := reader.isTarget && outer.isTarget
    patternOnly := outer.patternOnly.or reader.patternOnly }
  return result

/-- Notes that what was read is no pattern. -/
def notPattern : Parse Unit :=
  modify fun reader => { reader with isTarget := false, isBinding := false }

/-- Notes that what was read may be assigned to, but is no pattern. -/
def targetOnly : Parse Unit :=
  modify fun reader => { reader with isTarget := true, isBinding := false }

end Parse

end DeviceScript
