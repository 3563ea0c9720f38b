import Stencil.Number.Numeral

/-! The shortest decimal text of a number: as few digits as read back to the same number, never
with an exponent. -/

namespace Stencil.Number

structure Decimal where
  digits : Nat
  places : Nat

namespace Decimal

def text (decimal : Decimal) : List Char :=
  let whole := Nat.toDigits 10 (decimal.digits / Nat.pow 10 decimal.places)
  if decimal.places = 0 then whole
  else
    let fraction := Nat.toDigits 10 (decimal.digits % Nat.pow 10 decimal.places)
    whole ++ '.' :: (List.replicate (decimal.places - fraction.length) '0' ++ fraction)

def trimZero (decimal : Decimal) : Decimal :=
  if decimal.digits % 10 = 0 ∧ decimal.places ≠ 0 then ⟨decimal.digits / 10, decimal.places - 1⟩
  else decimal

def bits (decimal : Decimal) : Nat :=
  nearestBits decimal.digits (Nat.pow 10 decimal.places)

end Decimal

/-- How many digits the whole part of a magnitude has; below one, how many zeros follow the point,
negated. -/
def leadingPlace (magnitude : Nat) : Int :=
  (Nat.toDigits 10 (units magnitude * Nat.pow 10 400 / unitsOfOne)).length - 400

/-- The better of the two multiples of ten to the power `place` that enclose a magnitude, if one of
them reads back as it. When both do it is the nearer one, and the upper one of two equally near. The
upper one may be a power of ten, with a zero to drop. -/
def atPlace (magnitude : Nat) (place : Int) : Option Decimal :=
  let step := Nat.pow 10 place.toNat
  let places := (-place).toNat
  let numerator := units magnitude * Nat.pow 10 places
  let denominator := unitsOfOne * step
  let lower : Decimal := ⟨numerator / denominator * step, places⟩
  let upper := Decimal.trimZero ⟨(numerator / denominator + 1) * step, places⟩
  let upperNearer := denominator ≤ 2 * (numerator % denominator)
  if upper.bits = magnitude ∧ (upperNearer ∨ lower.bits ≠ magnitude) then some upper
  else if lower.bits = magnitude then some lower
  else none

def exact (magnitude : Nat) : Decimal :=
  ⟨units magnitude * Nat.pow 5 1074, 1074⟩

def shortest (magnitude : Nat) : Decimal :=
  if magnitude = 0 then ⟨0, 0⟩
  else
    let leading := leadingPlace magnitude
    ((List.range' 1 17).findSome? fun (count : Nat) => atPlace magnitude (leading - count)).getD
      (exact magnitude)

def text (x : Float) : List Char :=
  if x.isNaN then "NaN".toList
  else
    let magnitude := magnitudeBits x
    let body := if x.isInf then "inf".toList else (shortest magnitude).text
    if isNegative x then '-' :: body else body

example : text 0.1 = "0.1".toList := by decide +kernel

end Stencil.Number
