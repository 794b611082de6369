import DeviceScript.Number.Binary64

/-! The shortest decimal that reads back as a given double. Decimals with a fixed number of digits
form a grid, and the search takes the coarsest grid one of whose two points beside the double still
rounds to it.
-/

namespace DeviceScript

/-- The number `digits * 10 ^ exponent`. -/
structure Decimal where
  digits : Nat
  exponent : Int
  deriving DecidableEq

namespace Decimal

/-- The same number without zeros at the end of its digits. -/
def trim (digits : Nat) (exponent : Int) : Nat → Decimal
  | 0 => ⟨digits, exponent⟩
  | fuel + 1 =>
    if digits ≠ 0 ∧ digits % 10 = 0 then trim (digits / 10) (exponent + 1) fuel
    else ⟨digits, exponent⟩

end Decimal

namespace Magnitude

/-- The exponent `e` with `10 ^ (e - 1) ≤ size < 10 ^ e`, for a size other than zero. -/
def decimalExponent (size : Magnitude) : Int :=
  if one ≤ size.units then ((Nat.toDigits 10 size.floor).length : Int)
  else 1 - ((Nat.toDigits 10 ((one - 1) / size.units)).length : Int)

/-- A decimal in quarters of the smallest unit, as a fraction. -/
def quarters (decimal : Decimal) : Nat × Nat :=
  if 0 ≤ decimal.exponent then
    (decimal.digits * Nat.pow 10 decimal.exponent.toNat * (4 * one), 1)
  else (decimal.digits * (4 * one), Nat.pow 10 (-decimal.exponent).toNat)

/-- Tells whether a decimal lies among the numbers that round to a size. The bounds are halfway to
the neighbouring sizes, the lower neighbour of a power of two being half as far away, and they
belong to the range when the significand is even. -/
def reads (size : Magnitude) (decimal : Decimal) : Bool :=
  let (numerator, denominator) := quarters decimal
  let step := Nat.pow 2 size.exponent
  let below := if size.significand = Nat.pow 2 52 ∧ 0 < size.exponent then 1 else 2
  let low := (4 * size.significand - below) * step * denominator
  let high := (4 * size.significand + 2) * step * denominator
  if size.significand % 2 = 0 then low ≤ numerator && numerator ≤ high
  else low < numerator && numerator < high

/-- The best decimal with at most `count` digits that reads back as the size, if there is one.
Of two that do the nearer is better, and of two equally near the one that ends in an even digit. -/
def bestDecimal? (size : Magnitude) (count : Nat) : Option Decimal :=
  let exponent := size.decimalExponent - count
  let (numerator, denominator) :=
    if 0 ≤ exponent then (size.units, one * Nat.pow 10 exponent.toNat)
    else (size.units * Nat.pow 10 (-exponent).toNat, one)
  let lower : Decimal := ⟨numerator / denominator, exponent⟩
  let upper : Decimal := ⟨numerator / denominator + 1, exponent⟩
  match size.reads lower, size.reads upper with
  | true, true => some ⟨roundQuotient numerator denominator, exponent⟩
  | true, false => some lower
  | false, true => some upper
  | false, false => none

/-- The shortest decimal that reads back as the size; seventeen digits are always enough. -/
def shortest (size : Magnitude) : Decimal :=
  if size.significand = 0 then ⟨0, 0⟩
  else
    let best := ((List.range 17).findSome? fun count => size.bestDecimal? (count + 1)).getD ⟨0, 0⟩
    Decimal.trim best.digits best.exponent 17

end Magnitude

end DeviceScript
