import DeviceScript.Regex.Syntax

/-! Regular expressions that spell code points by their numbers, `\u0041` or `\u{1F600}`, as
the flag `u` allows. Such a regular expression is valid if it is valid without these escapes.
-/

namespace DeviceScript.Regex

/-- The number behind the backslash of an escape, and the length of what spells it. -/
def numbered? : Text → Option (Nat × Nat)
  | [] => none
  | letter :: text =>
    if letter ≠ 'u' then none
    else if text.head? = some '\x7b' then
      let digits := text.tail.takeWhile CodePoint.isHexadecimal
      let isClosed := text.tail[digits.length]? = some '\x7d'
      if digits ≠ [] && isClosed then some (Text.toNat 16 digits, digits.length + 3) else none
    else
      let digits := (text.take 4).takeWhile CodePoint.isHexadecimal
      if digits.length = 4 then some (Text.toNat 16 digits, 5) else none

/-- What stands for a code point that takes two code units. -/
def astral : CodePoint := (CodePoint.ofNat? 0xFFFF).getD default

/-- A text with escapes replaced by their code points, behind the rest of an escape of a given
length. There is no such text if a number is too large for a code point. -/
def unescapeBehind : Nat → Text → Option Text
  | _, [] => some []
  | length + 1, _ :: rest => unescapeBehind length rest
  | 0, point :: rest =>
    match if point = '\\' then numbered? rest else none with
    | none => (unescapeBehind 0 rest).map (point :: ·)
    | some (value, length) =>
      match CodePoint.ofNat? value with
      | none => none
      | some point =>
        (unescapeBehind length rest).map ((if 0xFFFF < value then astral else point) :: ·)

/-- A text in which one code point stands for each pair of surrogates. -/
def joinSurrogates : Text → Text
  | [] => []
  | [point] => [point]
  | high :: low :: rest =>
    if high.between 0xD800 0xDBFF && low.between 0xDC00 0xDFFF then astral :: joinSurrogates rest
    else high :: joinSurrogates (low :: rest)

/-- Tells whether a text is a valid regular expression under given flags. -/
def isValidUnder (flags text : Text) : Bool :=
  if flags.contains 'u' then ((unescapeBehind 0 text).map joinSurrogates).any isValid
  else isValid text

end DeviceScript.Regex
