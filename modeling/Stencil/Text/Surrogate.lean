/-! Characters above `U+FFFF` as pairs of 16-bit halves. -/

namespace Stencil.Text

def isHighSurrogate (code : Nat) : Bool :=
  0xd800 ≤ code && code < 0xdc00

def isLowSurrogate (code : Nat) : Bool :=
  0xdc00 ≤ code && code < 0xe000

def joinSurrogates (high low : Nat) : Nat :=
  0x10000 + (high - 0xd800) * 0x400 + (low - 0xdc00)

example : joinSurrogates 0xd83d 0xde00 = '😀'.toNat := by decide

end Stencil.Text
