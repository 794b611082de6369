import DeviceScript.Number.Shortest
import DeviceScript.Text.Basic

/-! The decimal spelling of doubles. -/

namespace DeviceScript

/-- How a decimal is laid out. -/
structure Numeral.Layout where
  /-- The least power of ten of a leading digit that is written with a point alone. -/
  least : Int
  /-- The greatest such power. -/
  greatest : Int
  /-- The least number of digits of an exponent. -/
  exponentWidth : Nat

namespace Numeral

/-- Numbers from `0.0001` to below `10 ^ 16` are written with a point, others with an exponent. -/
def layout : Layout := ⟨-4, 15, 2⟩

/-- A decimal with a point among its digits, and at least one digit on each side of it. -/
def positional (digits : List Char) (exponent : Int) : List Char :=
  if 0 ≤ exponent then digits ++ List.replicate exponent.toNat '0' ++ ['.', '0']
  else
    let places := (-exponent).toNat
    let filled := List.replicate (places + 1 - digits.length) '0' ++ digits
    let whole := filled.length - places
    filled.take whole ++ ['.'] ++ filled.drop whole

/-- A decimal with one digit before its point and a signed power of ten behind it. -/
def scientific (width : Nat) (digits : List Char) (power : Int) : List Char :=
  let exponent := Nat.toDigits 10 power.natAbs
  let fraction := if digits.length ≤ 1 then [] else '.' :: digits.drop 1
  digits.take 1 ++ fraction ++ ['e', if power < 0 then '-' else '+']
    ++ List.replicate (width - exponent.length) '0' ++ exponent

def ofDecimal (layout : Layout) (decimal : Decimal) : List Char :=
  let digits := Nat.toDigits 10 decimal.digits
  let power := decimal.exponent + digits.length - 1
  if layout.least ≤ power ∧ power ≤ layout.greatest then positional digits decimal.exponent
  else scientific layout.exponentWidth digits power

/-- The shortest spelling of a double that reads back as it. -/
def ofBinary64 : Binary64 → Text
  | .nan => "nan"
  | .infinity negative => if negative then "-inf" else "inf"
  | .finite negative size =>
    (if negative then "-" else "") ++ (ofDecimal layout size.shortest).map CodePoint.scalar

/-- Reads a decimal: digits, perhaps a point among them, and perhaps an exponent. -/
def readUnsigned? (negative : Bool) (text : Text) : Option Binary64 :=
  let whole := text.takeWhile CodePoint.isDecimal
  let rest := text.dropWhile CodePoint.isDecimal
  let (fraction, rest) :=
    match rest with
    | .scalar '.' :: after =>
      (after.takeWhile CodePoint.isDecimal, after.dropWhile CodePoint.isDecimal)
    | _ => ([], rest)
  let digits := whole ++ fraction
  let number (exponent : Int) :=
    Binary64.ofDecimal negative (Text.toNat 10 digits) (exponent - fraction.length)
  let power? (text : Text) : Option Nat :=
    if text ≠ [] ∧ text.all CodePoint.isDecimal then some (Text.toNat 10 text) else none
  if digits = [] then none
  else
    match rest with
    | [] => some (number 0)
    | .scalar mark :: rest =>
      if mark = 'e' ∨ mark = 'E' then
        match rest with
        | .scalar '-' :: power => (power? power).map fun power => number (-(power : Int))
        | .scalar '+' :: power => (power? power).map fun power => number power
        | power => (power? power).map fun power => number power
      else none
    | _ => none

/-- Reads a number as `ofBinary64` spells it, and any longer decimal spelling. -/
def read? (text : Text) : Option Binary64 :=
  let (negative, text) :=
    match text with
    | .scalar '-' :: rest => (true, rest)
    | .scalar '+' :: rest => (false, rest)
    | _ => (false, text)
  if text = "nan" then some .nan
  else if text = "inf" then some (.infinity negative)
  else readUnsigned? negative text

end Numeral

end DeviceScript
