/-! Sign and magnitude of 64-bit floating point numbers. The bits of a magnitude, read as a natural
number, grow with it, and a magnitude counts units of `2 ^ -1074`. -/

namespace Stencil.Number

/-- The magnitude bits of infinity: the first ones that no finite number has. -/
def infinityBits : Nat := 0x7ff0000000000000

def signBit : Nat := 0x8000000000000000

def leadingBit : Nat := 0x10000000000000

def unitsOfOne : Nat := Nat.pow 2 1074

def isNegative (x : Float) : Bool :=
  signBit ≤ x.toBits.toNat

def magnitudeBits (x : Float) : Nat :=
  x.toBits.toNat % signBit

def ofMagnitude (negative : Bool) (bits : Nat) : Float :=
  Float.ofBits (UInt64.ofNat (if negative then signBit + bits else bits))

/-- The whole number of units of `2 ^ -1074` that the bits of a finite magnitude stand for. -/
def units (bits : Nat) : Nat :=
  if bits / leadingBit = 0 then bits
  else (bits % leadingBit + leadingBit) * Nat.pow 2 (bits / leadingBit - 1)

def roundDiv (numerator denominator : Nat) : Nat :=
  let quotient := numerator / denominator
  let twice := 2 * (numerator % denominator)
  if denominator < twice ∨ (twice = denominator ∧ quotient % 2 = 1) then quotient + 1
  else quotient

/-- The bits of the magnitude nearest to a quotient. The significand is rounded to 53 bits, or to
whole units where that is coarser; a carry into the next binade is the same addition. -/
def nearestBits (numerator denominator : Nat) : Nat :=
  let scaled := numerator * unitsOfOne
  let shift := (scaled / denominator).log2 - 52
  min infinityBits (shift * leadingBit + roundDiv scaled (denominator * Nat.pow 2 shift))

example : nearestBits 1 10 = (0.1 : Float).toBits.toNat := by decide +kernel

end Stencil.Number
