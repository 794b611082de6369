import DeviceScript.Data.Keyed
import DeviceScript.Data.Toml.Clock
import DeviceScript.Data.Toml.Reader

/-! Reading of the values of a TOML document, and the tables they are put into. -/

namespace DeviceScript.Toml

open Read

/-- A table under construction. -/
abbrev Table := List (Text × Datum)

/-- Changes the table that names lead to, creating empty tables on the way.
Where names may lead through lists, they lead into the last item of one. -/
def change (throughLists : Bool) (action : Table → Except Fault Table)
    : List Text → Table → Except Fault Table
  | [], table => action table
  | name :: names, table => do
    match table.lookup name with
    | none => return Keyed.put name (.table (← change throughLists action names [])) table
    | some (.table inner) =>
      return Keyed.put name (.table (← change throughLists action names inner)) table
    | some (.list items) =>
      match items.getLast? with
      | some (.table inner) =>
        if !throughLists then throw .overwritten
        let inner ← change throughLists action names inner
        return Keyed.put name (.list (items.dropLast ++ [.table inner])) table
      | _ => throw .overwritten
    | some _ => throw .overwritten

/-- Enters a value under a name that must be new. -/
def enter (taken : Fault) (name : Text) (value : Datum) (table : Table) : Except Fault Table :=
  if (table.lookup name).isSome then .error taken else .ok (Keyed.put name value table)

/-- Tells whether a key lies in a value that has been written out in one place. -/
def isFixed (fixed : List Key) (key : Key) : Bool := fixed.any fun outer => outer.isPrefixOf key

/-- Turns a fault of a table into a fault at the current place. -/
def Read.orFail {α : Type} (result : Except Fault α) : Read α :=
  match result with
  | .ok value => return value
  | .error fault => fail fault

/-- A value that is written out in one place and cannot be extended elsewhere. -/
def isClosed : Datum → Bool
  | .table _ | .list _ => true
  | _ => false

/-- The length of the digits at the front of a text, in front of which one has been read already.
A single underscore may stand between two digits. -/
def moreDigits (isDigit : CodePoint → Bool) : Text → Nat
  | .scalar '_' :: digit :: rest => if isDigit digit then moreDigits isDigit rest + 2 else 0
  | digit :: rest => if isDigit digit then moreDigits isDigit rest + 1 else 0
  | [] => 0

/-- The length of the digits at the front of a text. -/
def digitsLength (isDigit : CodePoint → Bool) : Text → Nat
  | digit :: rest => if isDigit digit then moreDigits isDigit rest + 1 else 0
  | [] => 0

def withoutUnderscores (text : Text) : Text := text.filter fun point => point ≠ '_'

/-- The base of a number after its leading zero, and the digits that it may have. -/
def base? (mark : CodePoint) : Option (Nat × (CodePoint → Bool)) :=
  if mark = 'x' then some (16, CodePoint.isHexadecimal)
  else if mark = 'b' then some (2, fun digit => digit.between 0x30 0x31)
  else if mark = 'o' then some (8, CodePoint.isOctal)
  else none

/-- Reads an integer in a base other than ten, if there is one. -/
def basedInteger : Read (Option Datum) := do
  match ← get with
  | .scalar '0' :: mark :: digits =>
    match base? mark with
    | none => return none
    | some (base, isDigit) =>
      let count := digitsLength isDigit digits
      if count = 0 then return none
      skip (count + 2)
      return some (.integer (Text.toNat base (withoutUnderscores (digits.take count))))
  | _ => return none

/-- The length of the fraction and the exponent at the front of a text. -/
def fractionLength (text : Text) : Nat :=
  let fraction :=
    match text with
    | .scalar '.' :: rest => match digitsLength CodePoint.isDecimal rest with
      | 0 => 0
      | count => count + 1
    | _ => 0
  let exponent :=
    match text.drop fraction with
    | .scalar mark :: rest =>
      if mark = 'e' || mark = 'E' then
        let sign := match rest with
          | .scalar '+' :: _ | .scalar '-' :: _ => 1
          | _ => 0
        match digitsLength CodePoint.isDecimal (rest.drop sign) with
        | 0 => 0
        | count => count + sign + 1
      else 0
    | _ => 0
  fraction + exponent

/-- Reads a decimal number, if there is one. -/
def decimalNumber : Read (Option Datum) := do
  let rest ← get
  let (negative, sign) :=
    match rest with
    | .scalar '-' :: _ => (true, 1)
    | .scalar '+' :: _ => (false, 1)
    | _ => (false, 0)
  let digits := rest.drop sign
  let whole :=
    match digits with
    | .scalar '0' :: _ => 1
    | _ => digitsLength CodePoint.isDecimal digits
  if whole = 0 then return none
  let fraction := fractionLength (digits.drop whole)
  skip (sign + whole + fraction)
  let spelling := withoutUnderscores (digits.take (whole + fraction))
  if fraction = 0 then
    if digitLimit < spelling.length then throw (.digits spelling.length)
    let size : Int := Text.toNat 10 spelling
    return some (.integer (if negative then -size else size))
  return some (.real ((Numeral.readUnsigned? negative spelling).getD .nan))

/-- Reads an infinity or an undefined number, if there is one. -/
def specialNumber : Read (Option Datum) := do
  let negative ← sees "-"
  if negative then
    if ← accepts "-inf" then return some (.real (.infinity true))
    if ← accepts "-nan" then return some (.real .nan)
    return none
  if ← accepts "+inf" then return some (.real (.infinity false))
  if ← accepts "+nan" then return some (.real .nan)
  if ← accepts "inf" then return some (.real (.infinity false))
  if ← accepts "nan" then return some (.real .nan)
  return none

/-- Reads a day or a time, if there is one. -/
def moment : Read (Option Datum) := do
  match Clock.moment (← get) with
  | none => return none
  | some (moment, rest) =>
    let isReal : Bool :=
      match moment with
      | .day day | .dayTime day _ _ => day.isReal
      | .time _ => true
    if !isReal then fail .date
    set rest
    return some (.moment moment)

/-- Reads a truth value, a day or a time, or a number. -/
def scalar : Read Datum := do
  if ← accepts "true" then return .boolean true
  if ← accepts "false" then return .boolean false
  if let some moment ← moment then return moment
  if let some number ← basedInteger then return number
  if let some number ← decimalNumber then return number
  if let some number ← specialNumber then return number
  fail .value

/-- Reads a text in one of its four forms. -/
def quoted (quote : CodePoint) : Read Datum := do
  if ← sees [quote, quote, quote] then return .text (← tripleQuoted [quote])
  if quote = '"' then return .text (← doubleQuoted)
  return .text (← singleQuoted)

mutual

/-- Reads a value. -/
def value : Nat → Read Datum
  | 0 => fail .value
  | fuel + 1 => do
    match ← peek with
    | some (.scalar '"') => quoted '"'
    | some (.scalar '\x27') => quoted '\x27'
    | some (.scalar '[') =>
      skip 1
      skipLines (← steps)
      if ← accepts "]" then return .list []
      return .list (← items fuel)
    | some (.scalar '\x7b') =>
      skip 1
      skipSpace
      if ← accepts "\x7d" then return .table []
      return .table (← inlineEntries [] [] fuel)
    | _ => scalar

/-- Reads the items of a list, of which there is at least one left. -/
def items : Nat → Read (List Datum)
  | 0 => fail .value
  | fuel + 1 => do
    let item ← value fuel
    skipLines (← steps)
    if ← accepts "]" then return [item]
    if !(← accepts ",") then fail .arrayEnd
    skipLines (← steps)
    if ← accepts "]" then return [item]
    return item :: (← items fuel)

/-- Reads the entries of an inline table, of which there is at least one left. -/
def inlineEntries (table : Table) (fixed : List Key) : Nat → Read Table
  | 0 => fail .value
  | fuel + 1 => do
    let (key, item) ← pair fuel
    if isFixed fixed key then fail (.fixedTable key)
    let name := key.getLast?.getD []
    let table ← orFail (change false (enter (.duplicate name) name item) key.dropLast table)
    skipSpace
    if ← accepts "\x7d" then return table
    if !(← accepts ",") then fail .inlineTableEnd
    skipSpace
    inlineEntries table (if isClosed item then key :: fixed else fixed) fuel

/-- Reads a key and its value. -/
def pair : Nat → Read (Key × Datum)
  | 0 => fail .value
  | fuel + 1 => do
    let name ← key
    if !(← accepts "=") then fail .equalsSign
    skipSpace
    return (name, ← value fuel)

end

end DeviceScript.Toml
