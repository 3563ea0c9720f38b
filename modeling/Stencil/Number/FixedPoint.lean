import Stencil.Number.Binary64

/-! Decimals with a 96-bit coefficient and at most 28 decimal places, in which sums and means are
taken, so that `0.1 + 0.2` is `0.3`. -/

namespace Stencil.Number

structure FixedPoint where
  negative : Bool
  coefficient : Nat
  places : Nat
deriving DecidableEq

namespace FixedPoint

def zero : FixedPoint := ⟨false, 0, 0⟩

def bound : Nat := Nat.pow 2 96

/-- A coefficient on its way from a power of two to a power of ten. -/
structure Scaled where
  coefficient : Nat
  tens : Int

def halve : Nat → Scaled → Scaled
  | 0, value => value
  | count + 1, ⟨m, tens⟩ =>
    halve count <|
      if m % 2 = 0 then ⟨m / 2, tens + 1⟩
      else if m * 5 < bound then ⟨m * 5, tens⟩
      else ⟨m / 2, tens + 1⟩

/-- Takes `count` factors of two out of the exponent, each as a ten and a division by five once the
coefficient has no room left. -/
def double : Nat → Scaled → Option Scaled
  | 0, value => some value
  | count + 1, ⟨m, tens⟩ =>
    if m * 2 < bound then double count ⟨m * 2, tens - 1⟩
    else if (count + 1 : Int) < 2 * tens then none
    else double count ⟨m / 5, tens⟩

def raise : Nat → Nat → Option Nat
  | 0, m => some m
  | count + 1, m => if m * 10 < bound then raise count (m * 10) else none

def dropDigit (m : Nat) : Nat :=
  if 5 ≤ m % 10 then m / 10 + 1 else m / 10

def limitPlaces : Nat → Nat → Nat × Nat
  | m, 0 => (m, 0)
  | m, places + 1 =>
    if places + 1 ≤ 28 then (m, places + 1)
    else if m / 10 = 0 then (0, 0)
    else limitPlaces (dropDigit m) places

/-- Drops digits that a 52-bit significand cannot hold. -/
def limitDigits : Nat → Nat → Nat × Nat
  | m, 0 => (m, 0)
  | m, places + 1 =>
    if leadingBit ≤ m then limitDigits (dropDigit m) places else (m, places + 1)

def trimZeros : Nat → Nat → Nat × Nat
  | m, 0 => (m, 0)
  | m, places + 1 => if m % 10 = 0 then trimZeros (m / 10) places else (m, places + 1)

def ofFloat? (x : Float) : Option FixedPoint :=
  let bits := magnitudeBits x
  if infinityBits ≤ bits then none
  else if bits = 0 then some zero
  else do
    let field := bits / leadingBit
    let significand := if field = 0 then bits else bits % leadingBit + leadingBit
    let exponent : Int := (max field 1 : Nat) - 1075
    let scaled ← double exponent.toNat (halve (-exponent).toNat ⟨significand, exponent⟩)
    let m ← raise scaled.tens.toNat scaled.coefficient
    let (m, places) := limitPlaces m (-scaled.tens).toNat
    let (m, places) := limitDigits m places
    let (m, places) := trimZeros m places
    return ⟨isNegative x, m, places⟩

def aligned (d : FixedPoint) (places : Nat) : Int :=
  let m : Int := (d.coefficient * Nat.pow 10 (places - d.places) : Nat)
  if d.negative then -m else m

def fit? (total places : Nat) : Option (Nat × Nat) :=
  (List.range (places + 1)).findSome? fun dropped =>
    let m := if dropped = 0 then total else roundDiv total (Nat.pow 10 dropped)
    if m < bound then some (m, places - dropped) else none

def add? (a b : FixedPoint) : Option FixedPoint :=
  if a.coefficient = 0 then some b
  else if b.coefficient = 0 then some a
  else
    let places := max a.places b.places
    let total := a.aligned places + b.aligned places
    (fit? total.natAbs places).map fun (m, places) => ⟨decide (total < 0), m, places⟩

/-- Long division of `remainder / divisor`, up to nine digits at a time while the quotient has room;
then the quotient is rounded. -/
def divideDigits (divisor : Nat) : Nat → Nat → Nat → Nat → Nat × Nat
  | 0, quotient, _, places => (quotient, places)
  | steps + 1, quotient, remainder, places =>
    if remainder = 0 then (quotient, places)
    else
      let digits := ((List.range (min 9 (28 - places) + 1)).reverse.find? fun p =>
        quotient * Nat.pow 10 p < bound).getD 0
      if digits = 0 then
        (roundDiv (quotient * divisor + remainder) divisor, places)
      else
        let scaled := remainder * Nat.pow 10 digits
        divideDigits divisor steps (quotient * Nat.pow 10 digits + scaled / divisor) (scaled % divisor)
          (places + digits)

/-- Drops `count` zeros at once when the low bits selected by `modulus` allow it. -/
def unscale (count modulus : Nat) (value : Nat × Nat) : Nat × Nat :=
  let (m, places) := value
  let power := Nat.pow 10 count
  if m % modulus = 0 ∧ count ≤ places ∧ m % power = 0 then (m / power, places - count) else value

def unscaleAll (value : Nat × Nat) : Nat × Nat :=
  let eights := Nat.repeat (unscale 8 0x100000000) 4 value
  unscale 1 2 (unscale 2 4 (unscale 4 16 eights))

def divide (d : FixedPoint) (divisor : Nat) : FixedPoint :=
  if d.coefficient = 0 then zero
  else
    let quotient := d.coefficient / divisor
    let remainder := d.coefficient % divisor
    if remainder = 0 then ⟨d.negative, quotient, d.places⟩
    else
      let (m, places) := unscaleAll (divideDigits divisor 29 quotient remainder d.places)
      ⟨d.negative, m, places⟩

def whole (n : Nat) : Float :=
  ofMagnitude false (nearestBits n 1)

def tenTo (power : Nat) : Float :=
  go 5 power 10 1
where
  go : Nat → Nat → Float → Float → Float
    | 0, _, _, result => result
    | steps + 1, power, base, result =>
      go steps (power / 2) (base * base) (if power % 2 = 1 then result * base else result)

def toFloat (d : FixedPoint) : Float :=
  let power := Nat.pow 10 d.places
  let integer := whole (d.coefficient / power)
  let fraction := whole (d.coefficient % power) / whole power
  let magnitude :=
    if d.places = 0 ∨ fraction == 0 then integer
    else
      let scale := tenTo d.places
      ((integer + fraction) * scale).round / scale
  if d.negative then -magnitude else magnitude

end FixedPoint

def decimalSum? (numbers : List Float) : Option FixedPoint := do
  let decimals ← numbers.mapM FixedPoint.ofFloat?
  decimals.foldlM FixedPoint.add? FixedPoint.zero

def floatSum (numbers : List Float) : Float :=
  numbers.foldl (· + ·) (-0.0)

def sum (numbers : List Float) : Float :=
  match decimalSum? numbers with
  | some total => total.toFloat
  | none => floatSum numbers

def mean (numbers : List Float) : Option Float :=
  if numbers.isEmpty then none
  else
    match decimalSum? numbers with
    | some total => some (total.divide numbers.length).toFloat
    | none => some (floatSum numbers / FixedPoint.whole numbers.length)

end Stencil.Number
