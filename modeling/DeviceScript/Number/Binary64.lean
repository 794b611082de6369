/-! Double-precision numbers, exactly. A finite double is its significand times a power of two,
counted in units of `2 ^ -1074`, so that every question about its value is a question about natural
numbers.
-/

namespace DeviceScript

/-- The size of a finite double: `significand * 2 ^ exponent` units of `2 ^ -1074`. -/
structure Magnitude where
  significand : Nat
  exponent : Nat
  significand_lt : significand < Nat.pow 2 53
  normal : Nat.pow 2 52 ≤ significand ∨ exponent = 0
  exponent_le : exponent ≤ 2045
  deriving DecidableEq

/-- A double-precision number, where all the ways to be undefined are one. -/
inductive Binary64 where
  | nan
  | infinity (negative : Bool)
  | finite (negative : Bool) (magnitude : Magnitude)
  deriving DecidableEq

namespace Magnitude

def zero : Magnitude := ⟨0, 0, by decide, .inr rfl, by decide⟩

/-- The size in units of `2 ^ -1074`. -/
def units (size : Magnitude) : Nat := size.significand * Nat.pow 2 size.exponent

/-- The number of smallest units in one. -/
def one : Nat := Nat.pow 2 1074

/-- The magnitude with the given parts, if they are in range. -/
def ofParts? (significand exponent : Nat) : Option Magnitude :=
  if h : significand < Nat.pow 2 53 ∧ (Nat.pow 2 52 ≤ significand ∨ exponent = 0) ∧
      exponent ≤ 2045 then
    some ⟨significand, exponent, h.1, h.2.1, h.2.2⟩
  else none

/-- A quotient of natural numbers rounded to the nearest, a half to the even neighbour. -/
def roundQuotient (numerator denominator : Nat) : Nat :=
  let quotient := numerator / denominator
  let twice := 2 * (numerator % denominator)
  if twice < denominator then quotient
  else if denominator < twice then quotient + 1
  else quotient + quotient % 2

/-- The magnitude nearest to a quotient, unless that is too large to be finite. -/
def nearest? (numerator denominator : Nat) : Option Magnitude :=
  let units := numerator * one
  let exponent := (units / denominator).log2 - 52
  let significand := roundQuotient units (denominator * Nat.pow 2 exponent)
  if significand = Nat.pow 2 53 then ofParts? (Nat.pow 2 52) (exponent + 1)
  else ofParts? significand exponent

/-- Tells whether the size is a whole number. -/
def isWhole (size : Magnitude) : Bool := size.units % one = 0

/-- The whole part of the size. -/
def floor (size : Magnitude) : Nat := size.units / one

end Magnitude

namespace Binary64

/-- The double nearest to a quotient, or an infinity beyond the largest one. -/
def ofQuotient (negative : Bool) (numerator denominator : Nat) : Binary64 :=
  match Magnitude.nearest? numerator denominator with
  | some size => .finite negative size
  | none => .infinity negative

/-- The double nearest to `digits * 10 ^ exponent`.
Exponents that decide the answer alone are cut off before any power is computed. -/
def ofDecimal (negative : Bool) (digits : Nat) (exponent : Int) : Binary64 :=
  if digits = 0 then .finite negative .zero
  else if 400 < exponent then .infinity negative
  else if exponent + (Nat.toDigits 10 digits).length < -400 then .finite negative .zero
  else if 0 ≤ exponent then ofQuotient negative (digits * Nat.pow 10 exponent.toNat) 1
  else ofQuotient negative digits (Nat.pow 10 (-exponent).toNat)

def isFinite : Binary64 → Bool
  | finite _ _ => true
  | _ => false

/-- The integer that a double equals, if it equals one. -/
def toInt? : Binary64 → Option Int
  | finite negative size =>
    if size.isWhole then some (if negative then -(size.floor : Int) else size.floor) else none
  | _ => none

/-- Equality of values: an undefined number equals nothing, and zero has one value. -/
def sameValue : Binary64 → Binary64 → Bool
  | finite left size, finite right other =>
    size = other && (left = right || size.significand = 0)
  | infinity left, infinity right => left = right
  | _, _ => false

end Binary64

end DeviceScript
