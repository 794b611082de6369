import DeviceScript.Text.Blank

/-! Integers in a lenient spelling: with blanks around them, zeros in front of them and behind a
point, and underscores between their digits.
-/

namespace DeviceScript

/-- A sign and decimal digits. -/
structure IntegerSpelling where
  isNegative : Bool
  digits : Text

namespace IntegerSpelling

def value (spelling : IntegerSpelling) : Int :=
  let size : Int := Text.toNat 10 spelling.digits
  if spelling.isNegative then -size else size

/-- A numeral from behind a zero on, without further zeros and without underscores among them. The
last of them stays where nothing else follows, or only a fraction. -/
def dropZeros (last : CodePoint) : Text → Option Text
  | [] => some [last]
  | point :: rest =>
    if point = '0' || point = '_' then dropZeros point rest
    else if point = '.' then some (last :: point :: rest)
    else if point.isDecimal || point = '-' then some (point :: rest)
    else none

/-- A numeral without the zeros in front of it. It starts with a digit or a minus sign. -/
def dropLeadingZeros : Text → Option Text
  | [] => none
  | point :: rest =>
    if point = '0' then dropZeros point rest
    else if point.isDecimal || point = '-' then some (point :: rest)
    else none

/-- A numeral without its fraction, if that is made of zeros. -/
def dropFraction (numeral : Text) : Text :=
  let whole := Text.before "." numeral
  let fraction := numeral.drop (whole.length + 1)
  if fraction ≠ [] && fraction.all (· = .scalar '0') then whole else numeral

/-- A numeral without its underscores, if each of them stands alone and inside. -/
def dropUnderscores (numeral : Text) : Text :=
  if Text.startsWith numeral "_" || Text.endsWith numeral "_" || Text.includes numeral "__" then
    numeral
  else numeral.filter (· ≠ .scalar '_')

/-- The digits of a numeral without a needless zero in front of them. -/
def digits? (numeral : Text) : Option Text :=
  let isPlain := numeral ≠ [] && numeral.all CodePoint.isDecimal
  if isPlain && (numeral.length = 1 || numeral.head? ≠ some '0') then some numeral else none

/-- Blanks that may stand around an integer: all but the separators of files and records. -/
def isOuter (point : CodePoint) : Bool := point.isBlank && !point.between 0x1C 0x1F

/-- The integer that a text without blanks around it spells. A minus sign may stand in front of it
or behind its leading zeros, but not in both places. -/
def ofTrimmed? (text : Text) : Option IntegerSpelling :=
  let clean (text : Text) : Option Text :=
    (dropLeadingZeros text).map fun numeral => dropUnderscores (dropFraction numeral)
  match text with
  | .scalar '-' :: size => ((clean size).bind digits?).map (⟨true, ·⟩)
  | .scalar '+' :: .scalar '-' :: _ => none
  | _ =>
    match clean (if text.head? = some '+' then text.drop 1 else text) with
    | some (.scalar '-' :: size) => (digits? size).map (⟨true, ·⟩)
    | some size => (digits? size).map (⟨false, ·⟩)
    | none => none

/-- The integer that a text spells. -/
def read? (text : Text) : Option IntegerSpelling :=
  ofTrimmed? ((text.dropWhile isOuter).reverse.dropWhile isOuter).reverse

end IntegerSpelling

end DeviceScript
