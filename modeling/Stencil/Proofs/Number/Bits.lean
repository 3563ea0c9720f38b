import Mathlib
import Stencil.Number.Binary64

/-! Finite numbers are their sign and their magnitude, and compare by them. -/

namespace Stencil.Number

open Float.Model (Format UnpackedFloat)
open Float.Model.UnpackedFloat (unpackExponent unpackMantissa unpackSign Sign)

theorem toNat_unpackExponent (bits : BitVec Format.binary64.numBits) :
    (unpackExponent bits).toNat = bits.toNat / 4503599627370496 % 2048 := by
  simp [unpackExponent, BitVec.extractLsb, Nat.shiftRight_eq_div_pow]

theorem toNat_unpackMantissa (bits : BitVec Format.binary64.numBits) :
    (unpackMantissa bits).toNat = bits.toNat % 4503599627370496 := by
  simp [unpackMantissa, BitVec.extractLsb]

def bitsOf (x : Float) : BitVec Format.binary64.numBits :=
  x.toBits.toBitVec

theorem isFinite_iff_exponent (x : Float) :
    x.isFinite = true ↔ (unpackExponent (bitsOf x)).toNat ≠ 2047 := by
  have unpacked : x.isFinite =
      (UnpackedFloat.unpack Format.binary64 (bitsOf x)).isFinite := rfl
  rw [unpacked]
  unfold UnpackedFloat.unpack
  dsimp only
  split
  next special =>
    rw [special]
    split <;> simp [UnpackedFloat.isFinite]
  next ordinary =>
    have proper : (unpackExponent (bitsOf x)).toNat ≠ 2047 := fun same =>
      ordinary (BitVec.eq_of_toNat_eq same)
    simp only [proper, ne_eq, not_false_eq_true, iff_true]
    split
    · split <;> rfl
    · rfl

theorem isFinite_iff (x : Float) : x.isFinite = true ↔ magnitudeBits x < infinityBits := by
  rw [isFinite_iff_exponent, toNat_unpackExponent, bitsOf]
  have bound : x.toBits.toNat < 18446744073709551616 := x.toBits.toNat_lt
  change x.toBits.toNat / 4503599627370496 % 2048 ≠ 2047 ↔
    x.toBits.toNat % 9223372036854775808 < 9218868437227405312
  omega

theorem ofMagnitude_parts (x : Float) : ofMagnitude (isNegative x) (magnitudeBits x) = x := by
  have bound : x.toBits.toNat < 18446744073709551616 := x.toBits.toNat_lt
  have whole : (if isNegative x then signBit + magnitudeBits x else magnitudeBits x) =
      x.toBits.toNat := by
    cases negative : isNegative x with
    | true =>
        have large : signBit ≤ x.toBits.toNat := of_decide_eq_true negative
        simp only [magnitudeBits, signBit, if_true] at large ⊢
        omega
    | false =>
        have small : ¬signBit ≤ x.toBits.toNat := of_decide_eq_false negative
        simp only [magnitudeBits, signBit, Bool.false_eq_true, if_false] at small ⊢
        omega
  rw [ofMagnitude, whole, UInt64.ofNat_toNat, Float.ofBits_toBits]

/-- No magnitude up to that of infinity is one of the spare encodings of what is not a number. -/
theorem magnitudeBits_ofMagnitude {bits : Nat} (bound : bits ≤ infinityBits) (negative : Bool) :
    magnitudeBits (ofMagnitude negative bits) = bits := by
  generalize whole : (if negative then signBit + bits else bits) = n
  have small : n < 18446744073709551616 ∧ n % 9223372036854775808 = bits := by
    change bits ≤ 9218868437227405312 at bound
    subst whole
    cases negative with
    | true =>
        change 9223372036854775808 + bits < _ ∧ (9223372036854775808 + bits) % _ = bits
        omega
    | false =>
        change bits < _ ∧ bits % _ = bits
        omega
  have word : (UInt64.ofNat n).toNat = n := UInt64.toNat_ofNat_of_lt' small.1
  have valid : Format.binary64.Valid (UInt64.ofNat n).toBitVec := by
    constructor
    intro special mantissa
    have exponent := congrArg BitVec.toNat special
    rw [toNat_unpackExponent] at exponent
    change (UInt64.ofNat n).toNat / 4503599627370496 % 2048 = 2047 at exponent
    change bits ≤ 9218868437227405312 at bound
    refine absurd (BitVec.eq_of_toNat_eq ?_) mantissa
    rw [toNat_unpackMantissa]
    change (UInt64.ofNat n).toNat % 4503599627370496 = 0
    omega
  have stored : (Float.ofBits (UInt64.ofNat n)).toBits = UInt64.ofNat n := by
    have same := Float.ofBits_toBits (.ofModel ⟨UInt64.ofNat n, valid⟩)
    exact congrArg Float.toBits same
  rw [ofMagnitude, magnitudeBits, whole, stored, word]
  exact small.2

theorem eq_of_parts {x y : Float} (signs : isNegative x = isNegative y)
    (magnitudes : magnitudeBits x = magnitudeBits y) : x = y := by
  rw [← ofMagnitude_parts x, ← ofMagnitude_parts y, signs, magnitudes]

theorem toNat_unpackSign (bits : BitVec Format.binary64.numBits) :
    (unpackSign bits).toNat = bits.toNat / 9223372036854775808 % 2 := by
  simp [unpackSign, BitVec.extractLsb, Nat.shiftRight_eq_div_pow]

theorem toNat_leading (mantissa : BitVec 52) :
    (1#1 ++ mantissa).toNat = 4503599627370496 + mantissa.toNat := by
  have apart := Nat.two_pow_add_eq_or_of_lt mantissa.isLt 1
  rw [BitVec.toNat_append]
  simp [Nat.shiftLeft_eq] at *
  omega

def sign (x : Float) : Sign :=
  if isNegative x then .negative else .positive

theorem sign_eq_iff {x y : Float} : sign x = sign y ↔ isNegative x = isNegative y := by
  unfold sign
  cases isNegative x <;> cases isNegative y <;> simp

theorem ofBitVec_unpackSign (x : Float) : Sign.ofBitVec (unpackSign (bitsOf x)) = sign x := by
  have bound : x.toBits.toNat < 18446744073709551616 := x.toBits.toNat_lt
  have bit : unpackSign (bitsOf x) = 0#1 ↔ isNegative x = false := by
    rw [← BitVec.toNat_inj, toNat_unpackSign, isNegative, decide_eq_false_iff_not]
    change x.toBits.toNat / 9223372036854775808 % 2 = 0 ↔ ¬9223372036854775808 ≤ x.toBits.toNat
    omega
  cases negative : isNegative x <;> simp [Sign.ofBitVec, sign, bit, negative]

theorem unpack_finite {x : Float} (finite : x.isFinite = true) :
    (magnitudeBits x = 0 ∧ x.toModel.unpack = .zero (sign x)) ∨
    ∃ significand exponent positive,
      x.toModel.unpack = .finite (sign x) significand exponent positive ∧
      (magnitudeBits x : Int) = (exponent + 1074) * 4503599627370496 + significand := by
  have ordinary := (isFinite_iff_exponent x).mp finite
  have bound : x.toBits.toNat < 18446744073709551616 := x.toBits.toNat_lt
  have exponent : (unpackExponent (bitsOf x)).toNat =
      x.toBits.toNat / 4503599627370496 % 2048 := toNat_unpackExponent _
  have mantissa : (unpackMantissa (bitsOf x)).toNat = x.toBits.toNat % 4503599627370496 :=
    toNat_unpackMantissa _
  have magnitude : magnitudeBits x = x.toBits.toNat % 9223372036854775808 := rfl
  have unpacked : x.toModel.unpack = UnpackedFloat.unpack Format.binary64 (bitsOf x) := rfl
  have special : unpackExponent (bitsOf x) ≠ -1#_ := fun same => ordinary (by rw [same]; rfl)
  rw [unpacked]
  unfold UnpackedFloat.unpack
  dsimp only
  rw [if_neg special, ofBitVec_unpackSign]
  split
  next least =>
    have low : (unpackExponent (bitsOf x)).toNat = 0 := by rw [least]; rfl
    split
    next nothing =>
      have zero : (unpackMantissa (bitsOf x)).toNat = 0 := by rw [nothing]; rfl
      exact Or.inl ⟨by omega, rfl⟩
    next present =>
      have positive : 0 < (unpackMantissa (bitsOf x)).toNat :=
        Nat.pos_of_ne_zero fun same => present (BitVec.eq_of_toNat_eq same)
      refine Or.inr ⟨_, _, positive, rfl, ?_⟩
      rw [low, mantissa, magnitude]
      change _ = ((0 : Int) - (1023 + 52) + 1 + 1074) * 4503599627370496 + _
      omega
  next normal =>
    have high : (unpackExponent (bitsOf x)).toNat ≠ 0 := fun same =>
      normal (BitVec.eq_of_toNat_eq same)
    have leading := toNat_leading (unpackMantissa (bitsOf x))
    have positive : 0 < (1#1 ++ unpackMantissa (bitsOf x)).toNat := by omega
    refine Or.inr ⟨_, _, positive, rfl, ?_⟩
    rw [leading, mantissa, magnitude]
    change _ = (((unpackExponent (bitsOf x)).toNat : Int) - (1023 + 52) + 1074) *
      4503599627370496 + _
    rw [exponent] at high ordinary ⊢
    omega

theorem compare_finite {s t : Sign} {m n : Nat} {e f : Int} {hm : 0 < m} {hn : 0 < n} :
    (UnpackedFloat.finite s m e hm).compare (.finite t n f hn) = some .eq ↔
      s = t ∧ e = f ∧ m = n := by
  cases s <;> cases t <;>
    simp [UnpackedFloat.compare, Ordering.swap_eq_eq, Ordering.then_eq_eq]

theorem compare_zero_finite {s t : Sign} {m : Nat} {e : Int} {positive : 0 < m} :
    (UnpackedFloat.zero s).compare (.finite t m e positive) ≠ some .eq := by
  cases t <;> simp [UnpackedFloat.compare]

theorem compare_finite_zero {s t : Sign} {m : Nat} {e : Int} {positive : 0 < m} :
    (UnpackedFloat.finite t m e positive).compare (.zero s) ≠ some .eq := by
  cases t <;> simp [UnpackedFloat.compare]

theorem isNegative_of_zero {x : Float} (signed : x ≠ -0.0) (zero : magnitudeBits x = 0) :
    isNegative x = false := by
  have minusZero : ofMagnitude true 0 = -0.0 := by decide +kernel
  cases negative : isNegative x with
  | false => rfl
  | true =>
      have parts := ofMagnitude_parts x
      rw [negative, zero, minusZero] at parts
      exact absurd parts.symm signed

/-- The finite numbers but `-0`. -/
def Plain (x : Float) : Prop :=
  x.isFinite = true ∧ x ≠ -0.0

theorem beq_iff_compare (x y : Float) :
    (x == y) = true ↔ x.toModel.unpack.compare y.toModel.unpack = some .eq := by
  have compared : (x == y) = (x.toModel.unpack.compare y.toModel.unpack == some .eq) := rfl
  rw [compared, beq_iff_eq]

theorem beq_self_of_finite {x : Float} (finite : x.isFinite = true) : (x == x) = true := by
  rw [beq_iff_compare]
  rcases unpack_finite finite with ⟨_, unpacked⟩ | ⟨m, e, _, unpacked, _⟩ <;> rw [unpacked]
  · rfl
  · exact compare_finite.mpr ⟨rfl, rfl, rfl⟩

theorem beq_iff_eq_of_plain {x y : Float} (plain : Plain x) (plainToo : Plain y) :
    (x == y) = true ↔ x = y := by
  obtain ⟨finite, signed⟩ := plain
  obtain ⟨finiteToo, signedToo⟩ := plainToo
  constructor
  · intro same
    rw [beq_iff_compare] at same
    rcases unpack_finite finite with ⟨zero, left⟩ | ⟨m, e, _, left, magnitude⟩ <;>
      rcases unpack_finite finiteToo with ⟨zeroToo, right⟩ | ⟨n, f, _, right, magnitudeToo⟩ <;>
      rw [left, right] at same
    · refine eq_of_parts ?_ (zero.trans zeroToo.symm)
      rw [isNegative_of_zero signed zero, isNegative_of_zero signedToo zeroToo]
    · exact absurd same compare_zero_finite
    · exact absurd same compare_finite_zero
    · obtain ⟨signs, rfl, rfl⟩ := compare_finite.mp same
      exact eq_of_parts (sign_eq_iff.mp signs) (by omega)
  · rintro rfl
    exact beq_self_of_finite finite

end Stencil.Number
