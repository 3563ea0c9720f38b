import Stencil.Number.Shortest
import Stencil.Proofs.Number.Bits

/-! The decimal of a number is nearest to that number. -/

namespace Stencil.Number

-- The exponent stays a variable, so that no tactic computes the power.
theorem unitsOfOne_eq {exponent : Nat} (size : exponent = 1074) :
    unitsOfOne = Nat.pow 2 exponent := by
  delta unitsOfOne
  rw [← size]

theorem unitsOfOne_pos : 0 < unitsOfOne := by
  obtain ⟨exponent, size⟩ : ∃ exponent, exponent = 1074 := ⟨_, rfl⟩
  rw [unitsOfOne_eq size]
  exact Nat.two_pow_pos exponent

theorem roundDiv_mul (whole : Nat) {denominator : Nat} (positive : 0 < denominator) :
    roundDiv (whole * denominator) denominator = whole := by
  unfold roundDiv
  dsimp only
  rw [Nat.mul_mod_left, Nat.mul_div_cancel whole positive]
  apply if_neg
  omega

theorem roundDiv_small {numerator denominator : Nat} (small : 2 * numerator < denominator) :
    roundDiv numerator denominator = 0 := by
  have less : numerator < denominator := by omega
  unfold roundDiv
  dsimp only
  rw [Nat.div_eq_of_lt less, Nat.mod_eq_of_lt less]
  apply if_neg
  omega

theorem units_split (magnitude : Nat) : ∃ significand shift,
    units magnitude = significand * Nat.pow 2 shift ∧
      (units magnitude).log2 - 52 = shift ∧ shift * leadingBit + significand = magnitude := by
  have remainder : magnitude % leadingBit < leadingBit := Nat.mod_lt _ (by decide)
  have whole : magnitude / leadingBit * leadingBit + magnitude % leadingBit = magnitude :=
    Nat.div_add_mod' _ _
  unfold units
  split
  next subnormal =>
    rw [subnormal] at whole
    have least : magnitude.log2 - 52 = 0 := by
      by_cases zero : magnitude = 0
      · subst zero
        decide
      · have small : magnitude.log2 < 52 := (Nat.log2_lt zero).mpr (by
          change magnitude < leadingBit
          omega)
        omega
    exact ⟨magnitude, 0, (Nat.mul_one _).symm, least, by omega⟩
  next normal =>
    obtain ⟨shift, field⟩ := Nat.exists_eq_succ_of_ne_zero normal
    have size : ((magnitude % leadingBit + leadingBit) * Nat.pow 2 shift).log2 = 52 + shift := by
      change ((magnitude % leadingBit + leadingBit) * 2 ^ shift).log2 = _
      have room : 0 < 2 ^ shift := Nat.two_pow_pos shift
      apply (Nat.log2_eq_iff (Nat.mul_ne_zero (by omega) (by omega))).mpr
      rw [Nat.add_right_comm, Nat.pow_add, Nat.pow_add]
      constructor
      · exact Nat.mul_le_mul_right _ (by
          change leadingBit ≤ _
          omega)
      · exact Nat.mul_lt_mul_of_pos_right (by
          change _ < 2 * leadingBit
          omega) room
    rw [field, Nat.succ_eq_add_one] at whole ⊢
    rw [Nat.add_sub_cancel, size]
    refine ⟨_, shift, rfl, by omega, ?_⟩
    rw [Nat.add_mul] at whole
    omega

theorem nearestBits_exact {numerator denominator magnitude : Nat} (positive : 0 < denominator)
    (same : numerator * unitsOfOne = units magnitude * denominator)
    (finite : magnitude < infinityBits) : nearestBits numerator denominator = magnitude := by
  obtain ⟨significand, shift, split, steps, whole⟩ := units_split magnitude
  have step : 0 < denominator * Nat.pow 2 shift := Nat.mul_pos positive (Nat.two_pow_pos shift)
  unfold nearestBits
  dsimp only
  rw [same, Nat.mul_div_cancel _ positive, steps, split, Nat.mul_assoc,
    Nat.mul_comm (Nat.pow 2 shift), roundDiv_mul significand step, whole]
  exact Nat.min_eq_right (Nat.le_of_lt finite)

theorem nearestBits_small {numerator denominator : Nat}
    (small : 2 * (numerator * unitsOfOne) < denominator) :
    nearestBits numerator denominator = 0 := by
  have least : numerator * unitsOfOne / denominator = 0 := Nat.div_eq_of_lt (by omega)
  have room : 2 * (numerator * unitsOfOne) < denominator * Nat.pow 2 0 := by
    change _ < denominator * 1
    omega
  unfold nearestBits
  dsimp only
  rw [least, Nat.log2_zero, Nat.zero_sub, roundDiv_small room]
  rfl

/-- Where the numeral is too small for its digits to matter, so is its quotient. -/
theorem quotient_small {digits places : Nat} (tiny : digits.log2 + 1080 < 3 * places) :
    2 * (digits * unitsOfOne) < Nat.pow 10 places := by
  obtain ⟨exponent, size⟩ : ∃ exponent, exponent = 1074 := ⟨_, rfl⟩
  have bound : digits < 2 ^ (digits.log2 + 1) := Nat.lt_log2_self
  calc 2 * (digits * unitsOfOne)
      < 2 * (2 ^ (digits.log2 + 1) * unitsOfOne) :=
        Nat.mul_lt_mul_of_pos_left (Nat.mul_lt_mul_of_pos_right bound unitsOfOne_pos) (by decide)
    _ = 2 ^ (digits.log2 + 1 + exponent + 1) := by
        rw [unitsOfOne_eq size]
        change 2 * (2 ^ (digits.log2 + 1) * 2 ^ exponent) = _
        rw [← Nat.pow_add, Nat.mul_comm, ← Nat.pow_succ]
    _ ≤ 2 ^ (3 * places) := Nat.pow_le_pow_right (by decide) (by omega)
    _ = 8 ^ places := Nat.pow_mul 2 3 places
    _ ≤ 10 ^ places := Nat.pow_le_pow_left (by decide) places

theorem Numeral.magnitude_decimal (negative : Bool) (decimal : Decimal) :
    Numeral.magnitude ⟨negative, decimal.digits, -decimal.places⟩ = decimal.bits := by
  obtain ⟨digits, places⟩ := decimal
  unfold Numeral.magnitude Decimal.bits
  dsimp only
  split
  next zero =>
    subst zero
    symm
    apply nearestBits_small
    rw [Nat.zero_mul, Nat.mul_zero]
    exact Nat.pow_pos (by decide)
  next =>
    cases places with
    | zero =>
        change (if 400 < 0 then infinityBits else nearestBits (digits * 1) 1) = _
        rw [if_neg (by decide), Nat.mul_one]
    | succ down =>
        change (if digits.log2 + 1080 < 3 * (down + 1) then 0
          else nearestBits digits (Nat.pow 10 (down + 1))) = _
        split
        · next tiny => exact (nearestBits_small (quotient_small tiny)).symm
        · rfl

theorem atPlace_bits {magnitude : Nat} {place : Int} {decimal : Decimal}
    (found : atPlace magnitude place = some decimal) : decimal.bits = magnitude := by
  unfold atPlace at found
  dsimp only at found
  split at found
  next upper =>
    cases found
    exact upper.1
  next =>
    split at found
    next lower =>
      cases found
      exact lower
    next => cases found

theorem exact_bits {magnitude : Nat} (finite : magnitude < infinityBits) :
    (exact magnitude).bits = magnitude := by
  obtain ⟨places, size⟩ : ∃ places, places = 1074 := ⟨_, rfl⟩
  delta exact
  rw [← size]
  apply nearestBits_exact (Nat.pow_pos (by decide)) _ finite
  rw [unitsOfOne_eq size, Nat.mul_assoc]
  exact congrArg _ (Nat.mul_pow 5 2 places).symm

theorem shortest_bits {magnitude : Nat} (finite : magnitude < infinityBits) :
    (shortest magnitude).bits = magnitude := by
  unfold shortest
  split
  next zero =>
    subst zero
    apply nearestBits_small
    rw [Nat.zero_mul, Nat.mul_zero]
    decide
  next =>
    dsimp only
    cases found : (List.range' 1 17).findSome?
        fun (count : Nat) => atPlace magnitude (leadingPlace magnitude - count) with
    | none => exact exact_bits finite
    | some decimal =>
        obtain ⟨_, count, _, _, chosen, _⟩ := List.findSome?_eq_some_iff.mp found
        exact atPlace_bits chosen

theorem toFloat_shortest {x : Float} (finite : x.isFinite = true) :
    Numeral.toFloat ⟨isNegative x, (shortest (magnitudeBits x)).digits,
      -(shortest (magnitudeBits x)).places⟩ = x := by
  rw [Numeral.toFloat, Numeral.magnitude_decimal,
    shortest_bits ((isFinite_iff x).mp finite), ofMagnitude_parts]

end Stencil.Number
