/-! Hexadecimal digits. -/

namespace Stencil.Text

def hexValue? (c : Char) : Option Nat :=
  if c.isDigit then some (c.toNat - '0'.toNat)
  else if 'a' ≤ c ∧ c ≤ 'f' then some (c.toNat - 'a'.toNat + 10)
  else if 'A' ≤ c ∧ c ≤ 'F' then some (c.toNat - 'A'.toNat + 10)
  else none

def isHexDigit (c : Char) : Bool :=
  (hexValue? c).isSome

def hexNumber (digits : List Char) : Nat :=
  digits.foldl (fun value c => 16 * value + (hexValue? c).getD 0) 0

def hex (n : Nat) : List Char :=
  Nat.toDigits 16 n

def hex4 (n : Nat) : List Char :=
  let digits := hex n
  List.replicate (4 - digits.length) '0' ++ digits

example : hex4 0x1f = "001f".toList := by decide

end Stencil.Text
