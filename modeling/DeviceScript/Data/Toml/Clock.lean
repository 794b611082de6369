import DeviceScript.Data.Moment

/-! Days and times at the front of a text, each with what stands behind it. -/

namespace DeviceScript.Toml.Clock

/-- What is read at the front of a text, and the rest of it. -/
abbrev Front (α : Type) := Text → Option (α × Text)

/-- A number of as many digits as are given. -/
def number (width : Nat) : Front Nat := fun text =>
  let digits := text.take width
  if digits.length = width && digits.all CodePoint.isDecimal then
    some (Text.toNat 10 digits, text.drop width)
  else none

/-- A number of two digits within bounds. -/
def pair (least greatest : Nat) : Front Nat := fun text => do
  let (value, rest) ← number 2 text
  guard (least ≤ value ∧ value ≤ greatest)
  return (value, rest)

def mark (point : CodePoint) : Front Unit
  | first :: rest => if first = point then some ((), rest) else none
  | [] => none

/-- A year, a month and a day, whether the calendar has them or not. -/
def day : Front Day := fun text => do
  let (year, rest) ← number 4 text
  let (_, rest) ← mark '-' rest
  let (month, rest) ← pair 1 12 rest
  let (_, rest) ← mark '-' rest
  let (day, rest) ← pair 1 31 rest
  return (⟨year, month, day⟩, rest)

/-- The part of a second behind the full stop, of which six digits count. -/
def microseconds (text : Text) : Nat × Text :=
  match text with
  | .scalar '.' :: rest =>
    let digits := rest.takeWhile CodePoint.isDecimal
    if digits = [] then (0, text)
    else
      let counted := digits.take 6
      let zeros : Text := List.replicate (6 - counted.length) '0'
      (Text.toNat 10 (counted ++ zeros), rest.drop digits.length)
  | _ => (0, text)

def time : Front TimeOfDay := fun text => do
  let (hour, rest) ← pair 0 23 text
  let (_, rest) ← mark ':' rest
  let (minute, rest) ← pair 0 59 rest
  let (_, rest) ← mark ':' rest
  let (second, rest) ← pair 0 59 rest
  let (microsecond, rest) := microseconds rest
  return (⟨hour, minute, second, microsecond⟩, rest)

/-- The minutes by which a clock is ahead. -/
def ahead : Front Int
  | .scalar 'Z' :: rest | .scalar 'z' :: rest => some (0, rest)
  | .scalar sign :: rest => do
    guard (sign = '+' ∨ sign = '-')
    let (hours, rest) ← pair 0 23 rest
    let (_, rest) ← mark ':' rest
    let (minutes, rest) ← pair 0 59 rest
    let distance : Int := 60 * hours + minutes
    return (if sign = '-' then -distance else distance, rest)
  | _ => none

/-- A time behind a day, and the clock that it is taken from, if that is told. -/
def timeOfDay : Front (TimeOfDay × Option Int)
  | point :: rest => do
    guard (point = 'T' ∨ point = 't' ∨ point = ' ')
    let (time, rest) ← time rest
    match ahead rest with
    | some (ahead, rest) => return ((time, some ahead), rest)
    | none => return ((time, none), rest)
  | [] => none

/-- A day, perhaps with a time, or a time alone. -/
def moment (text : Text) : Option (Moment × Text) :=
  match day text with
  | some (day, rest) =>
    match timeOfDay rest with
    | some ((time, ahead), rest) => some (.dayTime day time ahead, rest)
    | none => some (.day day, rest)
  | none => (time text).map fun (time, rest) => (.time time, rest)

end DeviceScript.Toml.Clock
