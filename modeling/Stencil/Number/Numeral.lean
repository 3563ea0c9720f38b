import Stencil.Number.Binary64

/-! Decimal numerals such as `-12.5e3` and the numbers nearest to them. -/

namespace Stencil.Number

structure Numeral where
  negative : Bool
  digits : Nat
  exponent : Int
deriving DecidableEq

namespace Numeral

/-- Beyond the two bounds a power of ten is not computed: the result is zero or infinite
whatever the digits are. -/
def magnitude (numeral : Numeral) : Nat :=
  if numeral.digits = 0 then 0
  else
    match numeral.exponent with
    | .ofNat up => if 400 < up then infinityBits else nearestBits (numeral.digits * Nat.pow 10 up) 1
    | .negSucc down =>
      if numeral.digits.log2 + 1080 < 3 * (down + 1) then 0
      else nearestBits numeral.digits (Nat.pow 10 (down + 1))

def toFloat (numeral : Numeral) : Float :=
  ofMagnitude numeral.negative numeral.magnitude

end Numeral

def digitsValue (digits : List Char) : Nat :=
  digits.foldl (fun value c => 10 * value + (c.toNat - 48)) 0

def takeSign : List Char → Bool × List Char
  | '-' :: rest => (true, rest)
  | '+' :: rest => (false, rest)
  | rest => (false, rest)

def takeFraction : List Char → List Char × List Char
  | '.' :: rest => (rest.takeWhile Char.isDigit, rest.dropWhile Char.isDigit)
  | rest => ([], rest)

def exponent? : List Char → Option Int
  | [] => some 0
  | mark :: rest =>
    let (negative, digits) := takeSign rest
    if (mark = 'e' ∨ mark = 'E') ∧ digits ≠ [] ∧ digits.all Char.isDigit then
      some (if negative then -digitsValue digits else digitsValue digits)
    else none

/-- Reads a whole text as a numeral: a sign, digits with a point anywhere among them, and an
exponent, where all but one digit may be missing. -/
def Numeral.ofText? (text : List Char) : Option Numeral :=
  let (negative, body) := takeSign text
  let whole := body.takeWhile Char.isDigit
  let (fraction, tail) := takeFraction (body.dropWhile Char.isDigit)
  if whole = [] ∧ fraction = [] then none
  else (exponent? tail).map fun exponent =>
    ⟨negative, digitsValue (whole ++ fraction), exponent - fraction.length⟩

def ofText? (text : List Char) : Option Float :=
  (Numeral.ofText? text).map Numeral.toFloat

example : Numeral.ofText? "-12.5e3".toList = some ⟨true, 125, 2⟩ := by decide

end Stencil.Number
