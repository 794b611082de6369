import DeviceScript.Regex.Width
import DeviceScript.Text.Category

/-! Reading a regular expression: its signs, the groups it has opened so far, and the parts that do
not nest. A regular expression that is not valid cannot be read.
-/

namespace DeviceScript.Regex

/-- A code point of a regular expression, or one behind a backslash. -/
inductive Sign where
  | plain (point : CodePoint)
  | escaped (point : CodePoint)
  deriving DecidableEq

namespace Sign

/-- The signs of a text, which must not end with a backslash of its own. -/
def ofText? : Text → Option (List Sign)
  | [] => some []
  | [point] => if point = '\\' then none else some [plain point]
  | point :: next :: rest =>
    if point = '\\' then (ofText? rest).map (escaped next :: ·)
    else (ofText? (next :: rest)).map (plain point :: ·)

/-- The text up to a mark, and what follows the mark. -/
def untilMark (mark : CodePoint) : List Sign → Option (Text × List Sign)
  | [] => none
  | plain point :: rest =>
    if point = mark then some ([], rest)
    else (untilMark mark rest).map fun (text, rest) => (point :: text, rest)
  | escaped point :: rest =>
    (untilMark mark rest).map fun (text, rest) => ('\\' :: point :: text, rest)

/-- The plain code points of a class at the front, up to a number of them. -/
def leading (inClass : CodePoint → Bool) : Nat → List Sign → Text
  | count + 1, plain point :: rest =>
    if inClass point then point :: leading inClass count rest else []
  | _, _ => []

end Sign

/-- What has been read of a regular expression. -/
structure Reader where
  /-- What is still to be read. -/
  signs : List Sign
  /-- The groups by their numbers; one that is still open has no width yet. -/
  groups : List (Option Width) := []
  names : List (Text × Nat) := []
  /-- The number of groups in front of the outermost look behind that is being read. -/
  fence : Option Nat := none
  /-- The groups on which a choice depends. -/
  conditions : List Nat := []
  /-- Tells whether blanks and comments mean nothing. -/
  verbose : Bool := false
  ascii : Bool := false
  unicode : Bool := false

abbrev Read := StateT Reader Option

namespace Read

/-- The answer to an invalid regular expression. -/
def refuse {α : Type} : Read α := fun _ => none

def peek : Read (Option Sign) := return (← get).signs.head?

/-- Takes the next sign, if there is one. -/
def take : Read (Option Sign) := do
  let reader ← get
  set { reader with signs := reader.signs.drop 1 }
  return reader.signs.head?

/-- Tells whether a code point follows. -/
def isAt (point : Char) : Read Bool := return (← peek) = some (.plain point)

/-- Takes a code point if it follows. -/
def accept (point : Char) : Read Bool := do
  let found ← isAt point
  if found then
    let _ ← take
  return found

def expect (point : Char) : Read Unit := do
  if !(← accept point) then refuse

/-- Takes code points of a class, up to a number of them. -/
def takeWhile (inClass : CodePoint → Bool) (count : Nat) : Read Text := do
  let reader ← get
  let text := Sign.leading inClass count reader.signs
  set { reader with signs := reader.signs.drop text.length }
  return text

/-- Takes a decimal number, if there is one. -/
def number? : Read (Option Nat) := do
  let digits ← takeWhile CodePoint.isDecimal (← get).signs.length
  return if digits = [] then none else some (Text.toNat 10 digits)

/-- Takes what stands before a mark, and the mark. -/
def takeUntil (mark : Char) : Read Text := do
  let reader ← get
  match Sign.untilMark mark reader.signs with
  | none => refuse
  | some (text, rest) =>
    set { reader with signs := rest }
    return text

/-- Tells whether a text can be the name of a group. -/
def isName : Text → Bool
  | [] => false
  | first :: rest =>
    let isStart (point : CodePoint) : Bool := point = '_' || point.isLetter
    isStart first && rest.all fun point => isStart point || point.isJoiner

/-- Takes the name of a group up to a mark. -/
def groupName (mark : Char) : Read Text := do
  let name ← takeUntil mark
  if isName name then return name else refuse

/-- Refuses a group that is still open or stands in the same look behind. -/
def checkFence (group : Nat) : Read Unit := do
  let reader ← get
  if let some count := reader.fence then
    if !(reader.groups[group - 1]?.join).isSome || count < group then refuse

/-- The width of a group that was matched before. -/
def reference (group : Nat) : Read Width := do
  match (← get).groups[group - 1]?.join with
  | none => refuse
  | some width =>
    checkFence group
    return width

/-- The value of a fixed number of hexadecimal digits. -/
def hexadecimal (count : Nat) : Read Nat := do
  let digits ← takeWhile CodePoint.isHexadecimal count
  let value := Text.toNat 16 digits
  if digits.length = count && value ≤ 0x10FFFF then return value else refuse

/-- The control code that a letter behind a backslash stands for. -/
def control? (letter : CodePoint) : Option Nat :=
  let codes : List (Char × Nat) :=
    [('a', 7), ('f', 12), ('n', 10), ('r', 13), ('t', 9), ('v', 11)]
  (codes.find? fun entry => letter = entry.1).map Prod.snd

/-- Tells whether a letter behind a backslash stands for a class of code points. -/
def namesClass (letter : CodePoint) : Bool :=
  ['d', 'D', 's', 'S', 'w', 'W'].any fun name => letter = name

/-- Tells whether a letter behind a backslash stands for a place between code points. -/
def namesPlace (letter : CodePoint) : Bool :=
  ['A', 'b', 'B', 'Z'].any fun name => letter = name

def isAsciiLetter (point : CodePoint) : Bool :=
  point.between 0x41 0x5A || point.between 0x61 0x7A

/-- The value of an escape that is spelled in the same way everywhere. -/
def escapedValue (point : CodePoint) : Read Nat := do
  if let some code := control? point then return code
  else if point = 'x' then hexadecimal 2
  else if point = 'u' then hexadecimal 4
  else if point = 'U' then hexadecimal 8
  else if isAsciiLetter point then refuse
  else return point.value

/-- The value of an escape in a class, unless it stands for a class itself. -/
def classEscape (point : CodePoint) : Read (Option Nat) := do
  if namesClass point then return none
  else if point = 'b' then return some 8
  else if point.isOctal then
    let value := Text.toNat 8 (point :: (← takeWhile CodePoint.isOctal 2))
    if value ≤ 0o377 then return some value else refuse
  else if point.isDecimal then refuse
  else return some (← escapedValue point)

/-- The value of a sign in a class, unless it stands for a class itself. -/
def classSign : Sign → Read (Option Nat)
  | .plain point => return some point.value
  | .escaped point => classEscape point

/-- The rest of a class, which holds at least one sign or range. -/
def classRest (isFirst : Bool) : Nat → Read Unit
  | 0 => refuse
  | fuel + 1 => do
    match ← take with
    | none => refuse
    | some sign =>
      if !isFirst && sign = .plain ']' then return
      let low ← classSign sign
      if ← accept '-' then
        match ← take with
        | none => refuse
        | some sign =>
          if sign = .plain ']' then return
          match low, ← classSign sign with
          | some low, some high => if high < low then refuse else classRest false fuel
          | _, _ => refuse
      else classRest false fuel

/-- A class of code points from behind its opening bracket. -/
def classBody : Read Unit := do
  let _ ← accept '^'
  classRest true ((← get).signs.length + 1)

/-- How often something is repeated. -/
structure Count where
  least : Nat
  greatest : Option Nat

/-- The numbers between braces from behind the opening one, unless the brace stands for itself. -/
def bracedCount : Read (Option Count) := do
  if ← isAt '\x7d' then return none
  let outer ← get
  let least ← number?
  let isRange ← accept ','
  let greatest ← if isRange then number? else pure least
  if ← accept '\x7d' then
    let count : Count := ⟨least.getD 0, greatest⟩
    let tooMany := Nat.pow 2 32 - 1
    if tooMany ≤ count.least || greatest.any (fun most => tooMany ≤ most || most < count.least) then
      refuse
    return some count
  else
    set outer
    return none

end Read

end DeviceScript.Regex
