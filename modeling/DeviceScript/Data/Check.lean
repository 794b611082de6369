import DeviceScript.Data.Cited
import DeviceScript.Number.IntegerSpelling
import DeviceScript.Text.Blank

/-! Checks of values that come from outside, and the reports on those that are not accepted. -/

namespace DeviceScript

/-- Why a value is not accepted. -/
inductive Flaw where
  | missing
  | notText
  | notPath
  | notBoolean
  | unreadableBoolean
  | notInteger
  | unreadableInteger
  | oversizedInteger
  | fractional
  | notFinite
  | tooSmall (least : Nat)
  | tooLarge (greatest : Nat)
  | notTable
  | notAmong (names : List Text)
  | refused (reason : Text)
  /-- A flaw that only a library knows, by its short name and the words for it. -/
  | other (name words : Text)

namespace Flaw

/-- The short name of a flaw. -/
def code : Flaw → Text
  | missing => "missing"
  | notText => "string_type"
  | notPath => "path_type"
  | notBoolean => "bool_type"
  | unreadableBoolean => "bool_parsing"
  | notInteger => "int_type"
  | unreadableInteger => "int_parsing"
  | oversizedInteger => "int_parsing_size"
  | fractional => "int_from_float"
  | notFinite => "finite_number"
  | tooSmall _ => "greater_than_equal"
  | tooLarge _ => "less_than_equal"
  | notTable => "dict_type"
  | notAmong _ => "enum"
  | refused _ => "value_error"
  | other name _ => name

/-- Quoted names, the last of them after the word "or". -/
def alternatives : List Text → Text
  | [] => []
  | [name] => "'" ++ name ++ "'"
  | [name, last] => "'" ++ name ++ "' or '" ++ last ++ "'"
  | name :: names => "'" ++ name ++ "', " ++ alternatives names

def message : Flaw → Text
  | missing => "Field required"
  | notText => "Input should be a valid string"
  | notPath => "Input is not a valid path for <class 'pathlib.Path'>"
  | notBoolean => "Input should be a valid boolean"
  | unreadableBoolean => "Input should be a valid boolean, unable to interpret input"
  | notInteger => "Input should be a valid integer"
  | unreadableInteger => "Input should be a valid integer, unable to parse string as an integer"
  | oversizedInteger => "Unable to parse input string as an integer, exceeded maximum size"
  | fractional => "Input should be a valid integer, got a number with a fractional part"
  | notFinite => "Input should be a finite number"
  | tooSmall least => "Input should be greater than or equal to " ++ Text.ofNat least
  | tooLarge greatest => "Input should be less than or equal to " ++ Text.ofNat greatest
  | notTable => "Input should be a valid dictionary"
  | notAmong names => "Input should be " ++ alternatives names
  | refused reason => "Value error, " ++ reason
  | other _ words => words

end Flaw

/-- A value that is not accepted, and where it stands. -/
structure Rejection where
  place : List Text
  flaw : Flaw
  value : Datum

namespace Rejection

/-- The number of bytes of a code point. -/
def width (point : CodePoint) : Nat :=
  if point.value < 0x80 then 1
  else if point.value < 0x800 then 2
  else if point.value < 0x10000 then 3
  else 4

/-- The longest front of a text that fits into a number of bytes. -/
def fitting (bytes : Nat) : Text → Text
  | [] => []
  | point :: rest => if bytes < width point then [] else point :: fitting (bytes - width point) rest

/-- A long text keeps its first 25 and its last 24 bytes. -/
def shorten (text : Text) : Text :=
  if (text.map width).foldr (· + ·) 0 ≤ 50 then text
  else fitting 25 text ++ "..." ++ (fitting 24 text.reverse).reverse

/-- A step of a place; one that holds a full stop is quoted, for the stop also joins the steps. -/
def citedStep (step : Text) : Text :=
  if step.contains (.scalar '.') then "\x60" ++ step ++ "\x60" else step

/-- The two lines of a report: the place, and what is wrong with the value there. -/
def lines (rejection : Rejection) : List Text :=
  [Text.join "." (rejection.place.map citedStep),
    "  " ++ rejection.flaw.message ++ " [type=" ++ rejection.flaw.code ++ ", input_value="
      ++ shorten rejection.value.cited ++ ", input_type=" ++ rejection.value.shapeName ++ "]"]

/-- All reports on one group of values, under a line that counts them. -/
def report (group : Text) (rejections : List Rejection) : Text :=
  let count := rejections.length
  Text.unlines
    ((Text.ofNat count ++ (if count = 1 then " validation error" else " validation errors")
      ++ " for " ++ group) :: rejections.flatMap lines)

end Rejection

namespace Datum

/-- Accepts a text. -/
def checkText : Datum → Except Flaw Text
  | text value => .ok value
  | _ => .error .notText

/-- A letter without its case, for the letters of ASCII. -/
def lower (point : CodePoint) : CodePoint :=
  match point with
  | .scalar char => .scalar char.toLower
  | _ => point

/-- The truth value that a word stands for, in any case. -/
def truth? (word : Text) : Option Bool :=
  let word := word.map lower
  let isAmong (words : List Text) : Bool := words.contains word
  if isAmong ["1", "true", "t", "yes", "y", "on"] then some true
  else if isAmong ["0", "false", "f", "no", "n", "off"] then some false
  else none

/-- Tells whether an integer fits into 64 bits. -/
def isWord (number : Int) : Bool := -Int.pow 2 63 ≤ number && number < Int.pow 2 63

/-- Tells whether an integer is certain to fit into 64 bits after its rounding to a double. -/
def isSmall (number : Int) : Bool := number.natAbs < Nat.pow 2 63

/-- Accepts a truth value, zero or one, and the words for them. -/
def checkBoolean : Datum → Except Flaw Bool
  | boolean value => .ok value
  | text word => match truth? word with
    | some value => .ok value
    | none => .error .unreadableBoolean
  | integer number =>
    if number = 0 then .ok false
    else if number = 1 then .ok true
    else if isWord number then .error .unreadableBoolean
    else .error .notBoolean
  | real number => match number.toInt? with
    | some 0 => .ok false
    | some 1 => .ok true
    | some whole => .error (if isSmall whole then .unreadableBoolean else .notBoolean)
    | none => .error .notBoolean
  | _ => .error .notBoolean

/-- The greatest number of digits that are read. -/
def digitLimit : Nat := 4300

/-- Accepts the spelling of an integer. -/
def checkSpelling (spelling : Text) : Except Flaw Int :=
  match IntegerSpelling.read? spelling with
  | none => .error .unreadableInteger
  | some spelled =>
    if digitLimit < spelled.digits.length then .error .oversizedInteger else .ok spelled.value

/-- Accepts an integer, a truth value, a number without a fraction, and the spelling of an
integer. -/
def checkInteger : Datum → Except Flaw Int
  | integer number => .ok number
  | boolean value => .ok (if value then 1 else 0)
  | real number =>
    if !number.isFinite then .error .notFinite
    else match number.toInt? with
      | some whole => if isSmall whole then .ok whole else .error .oversizedInteger
      | none => .error .fractional
  | text spelling => checkSpelling spelling
  | _ => .error .notInteger

/-- Accepts nothing, or what another check accepts. -/
def checkOptional {α : Type} (check : Datum → Except Flaw α) : Datum → Except Flaw (Option α)
  | null => .ok none
  | value => (check value).map some

/-- Accepts one of several named things by its name. -/
def checkAmong {α : Type} (name : α → Text) (all : List α) (value : Datum) : Except Flaw α :=
  let found : Option α :=
    match value with
    | text spelling => all.find? fun item => name item = spelling
    | _ => none
  match found with
  | some item => .ok item
  | none => .error (.notAmong (all.map name))

/-- A check with a report under the name of a field. -/
def checkNamed {α : Type} (name : Text) (check : Datum → Except Flaw α) (value : Datum)
    : Except (List Rejection) α :=
  (check value).mapError fun flaw => [⟨[name], flaw, value⟩]

/-- Checks the value of a field that has a default. -/
def checkGiven {α : Type} (default : α) (check : Datum → Except (List Rejection) α)
    : Option Datum → Except (List Rejection) α
  | some value => check value
  | none => .ok default

/-- Checks the value under a key that must be there. -/
def checkRequired {α : Type} (entries : List (Text × Datum)) (key : Text)
    (check : Datum → Except Flaw α) : Except (List Rejection) α :=
  match entries.lookup key with
  | some value => checkNamed key check value
  | none => .error [⟨[key], .missing, table entries⟩]

/-- What a check finds wrong. -/
def rejections {α : Type} : Except (List Rejection) α → List Rejection
  | .ok _ => []
  | .error rejections => rejections

end Datum

end DeviceScript
