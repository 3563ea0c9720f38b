import Stencil.Json.Document
import Stencil.Number.Numeral

/-! The numbers of documents. A literal is read as a significand of 64 bits, which is scaled by a
power of ten afterwards, so the result is not always the number nearest to the literal. -/

namespace Stencil.Json

abbrev FiniteFloat := { x : Float // x.isFinite = true }

def finite? (x : Float) : Option FiniteFloat :=
  if finite : x.isFinite = true then some ⟨x, finite⟩ else none

namespace Literal

/-- Takes digits into a significand as long as it fits into 64 bits, and returns those it leaves. -/
def takeDigits (significand : Nat) : List Char → Nat × List Char
  | [] => (significand, [])
  | c :: rest =>
    let next := 10 * significand + (c.toNat - 48)
    if next < 0x10000000000000000 then takeDigits next rest else (significand, c :: rest)

def powerOfTen (exponent : Nat) : Float :=
  (Number.Numeral.mk false 1 exponent).toFloat

def largestPower : Nat := 308

def shrink (x : Float) : Nat → Float
  | 0 => x
  | count + 1 => if x == 0 then x else shrink (x / powerOfTen largestPower) count

def scale? (significand : Nat) (exponent : Int) : Option Float :=
  let x := (Number.Numeral.mk false significand 0).toFloat
  match exponent with
  | .ofNat up =>
    if up ≤ largestPower then some (x * powerOfTen up) else if significand = 0 then some x else none
  | .negSucc down =>
    let count := down / largestPower
    some (shrink x count / powerOfTen (down + 1 - largestPower * count))

/-- Digits of the whole part that do not fit still count for the exponent; of the fraction they do
not count at all. -/
def ofText? (text : List Char) : Option FiniteFloat := do
  let (negative, body) := Number.takeSign text
  let (fraction, tail) := Number.takeFraction (body.dropWhile Char.isDigit)
  let (significand, more) := takeDigits 0 (body.takeWhile Char.isDigit)
  let (significand, unseen) := takeDigits significand fraction
  let exponent ← Number.exponent? tail
  let x ← scale? significand (exponent + more.length - (fraction.length - unseen.length))
  finite? (if negative then -x else x)

end Literal

instance : Numbers where
  Number := FiniteFloat
  ofText? := Literal.ofText?
  ofFloat? := finite?
  toFloat? x := some x.val

end Stencil.Json
