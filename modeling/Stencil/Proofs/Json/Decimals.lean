import Stencil.Proofs.Json.Numbers
import Stencil.Proofs.Number.Reading
import Stencil.Proofs.Number.Shortest

/-! The text of a finite number is a JSON number, and it is read as that number. -/

namespace Stencil.Json

open Number (Decimal Means digitsValue)

theorem toDigits_digits (n : Nat) : Digits (Nat.toDigits 10 n) :=
  ⟨Nat.toDigits_ne_nil, fun _ member =>
    Nat.isDigit_of_mem_toDigits (by decide) (by decide) member⟩

theorem digitsValue_eq (digits : List Char) : digitsValue digits = Nat.ofDigitChars 10 digits 0 :=
  rfl

theorem digitsValue_append (front behind : List Char) :
    digitsValue (front ++ behind) =
      Nat.pow 10 behind.length * digitsValue front + digitsValue behind := by
  rw [digitsValue_eq, Nat.ofDigitChars_append, Nat.ofDigitChars_eq_ofDigitChars_zero]
  rfl

theorem toDigits_head? {n : Nat} (positive : 0 < n) : (Nat.toDigits 10 n).head? ≠ some '0' := by
  induction n using Nat.strongRecOn with
  | ind n ih =>
      rw [Nat.toDigits_eq_if (by decide)]
      split
      next small =>
        have differs : n.digitChar ≠ '0' := fun same => by
          have zero := Nat.digitChar_eq_zero.mp same
          omega
        simpa using differs
      next large =>
        have higher := ih (n / 10) (by omega) (by omega)
        rw [List.head?_append]
        cases first : (Nat.toDigits 10 (n / 10)).head? with
        | none => exact absurd (List.head?_eq_none_iff.mp first) Nat.toDigits_ne_nil
        | some c =>
            rw [first] at higher
            exact higher

theorem toDigits_whole (n : Nat) : Whole (Nat.toDigits 10 n) := by
  refine ⟨toDigits_digits n, fun leads => ?_⟩
  by_cases zero : n = 0
  · rw [zero, Nat.toDigits_zero]
  · exact absurd leads (toDigits_head? (by omega))

def padded (decimal : Decimal) : List Char :=
  let fraction := Nat.toDigits 10 (decimal.digits % Nat.pow 10 decimal.places)
  List.replicate (decimal.places - fraction.length) '0' ++ fraction

theorem padded_digits (decimal : Decimal) : Digits (padded decimal) := by
  have digits := toDigits_digits (decimal.digits % Nat.pow 10 decimal.places)
  refine ⟨fun none => digits.1 (List.append_eq_nil_iff.mp none).2, fun c member => ?_⟩
  rcases List.mem_append.mp member with zero | digit
  · rw [List.eq_of_mem_replicate zero]
    decide
  · exact digits.2 c digit

theorem padded_length {decimal : Decimal} (places : decimal.places ≠ 0) :
    (padded decimal).length = decimal.places := by
  have less : decimal.digits % Nat.pow 10 decimal.places < 10 ^ decimal.places :=
    Nat.mod_lt _ (Nat.pow_pos (by decide))
  have fits := (Nat.length_toDigits_le_iff (b := 10) (by decide) (by omega)).mpr less
  unfold padded
  dsimp only
  rw [List.length_append, List.length_replicate]
  omega

theorem padded_value (decimal : Decimal) :
    digitsValue (padded decimal) = decimal.digits % Nat.pow 10 decimal.places := by
  unfold padded
  dsimp only
  rw [digitsValue_eq, Nat.ofDigitChars_append, Nat.ofDigitChars_replicate_zero, Nat.mul_zero,
    Nat.ofDigitChars_ten_toDigits]

theorem decimal_text (decimal : Decimal) : decimal.text =
    Nat.toDigits 10 (decimal.digits / Nat.pow 10 decimal.places) ++
      if decimal.places = 0 then [] else '.' :: padded decimal := by
  unfold Decimal.text padded
  dsimp only
  split
  · rw [List.append_nil]
  · rfl

def signed (negative : Bool) (body : List Char) : List Char :=
  if negative then '-' :: body else body

theorem text_value {decimal : Decimal} (places : decimal.places ≠ 0) :
    digitsValue (Nat.toDigits 10 (decimal.digits / Nat.pow 10 decimal.places) ++ padded decimal) =
      decimal.digits := by
  rw [digitsValue_append, padded_length places, padded_value, digitsValue_eq,
    Nat.ofDigitChars_ten_toDigits]
  exact Nat.div_add_mod _ _

theorem decimal_parts (decimal : Decimal) : ∃ fraction,
    decimal.text = Nat.toDigits 10 (decimal.digits / Nat.pow 10 decimal.places) ++ fraction ∧
    Fraction fraction ∧ (fraction.drop 1).length = decimal.places ∧
    digitsValue (Nat.toDigits 10 (decimal.digits / Nat.pow 10 decimal.places) ++
      fraction.drop 1) = decimal.digits := by
  by_cases none : decimal.places = 0
  · refine ⟨[], by rw [decimal_text, if_pos none], .none, none.symm, ?_⟩
    rw [none, List.drop_nil, List.append_nil, digitsValue_eq, Nat.ofDigitChars_ten_toDigits]
    exact Nat.div_one decimal.digits
  · exact ⟨'.' :: padded decimal, by rw [decimal_text, if_neg none], .some (padded_digits decimal),
      padded_length none, text_value none⟩

theorem signed_eq (negative : Bool) (body : List Char) :
    ∃ minus, (minus = [] ∨ minus = ['-']) ∧ negative = decide (minus ≠ []) ∧
      signed negative body = minus ++ body := by
  cases negative with
  | true => exact ⟨['-'], Or.inr rfl, rfl, rfl⟩
  | false => exact ⟨[], Or.inl rfl, rfl, rfl⟩

theorem decimal_means (negative : Bool) (decimal : Decimal) :
    Means (signed negative decimal.text) ⟨negative, decimal.digits, -decimal.places⟩ := by
  obtain ⟨fraction, text, isFraction, places, value⟩ := decimal_parts decimal
  obtain ⟨minus, kind, rfl, sign⟩ := signed_eq negative decimal.text
  have isWhole := toDigits_digits (decimal.digits / Nat.pow 10 decimal.places)
  have means := Means.parts kind isWhole.2 isFraction (Or.inl isWhole.1) .none
  rwa [List.append_nil, ← text, ← sign, places, value, Int.zero_sub] at means

theorem decimal_numberText (negative : Bool) (decimal : Decimal) :
    NumberText (signed negative decimal.text) := by
  obtain ⟨fraction, text, isFraction, _, _⟩ := decimal_parts decimal
  obtain ⟨minus, kind, _, sign⟩ := signed_eq negative decimal.text
  have isWhole := toDigits_whole (decimal.digits / Nat.pow 10 decimal.places)
  have parts := NumberText.parts kind isWhole isFraction .none
  rwa [List.append_nil, ← text, ← sign] at parts

theorem text_finite {x : Float} (finite : x.isFinite = true) : Number.text x =
    signed (Number.isNegative x) (Number.shortest (Number.magnitudeBits x)).text := by
  have proper : x.isNaN = false ∧ x.isInf = false := by
    change x.toModel.unpack.isNaN = false ∧ x.toModel.unpack.isInf = false
    change x.toModel.unpack.isFinite = true at finite
    cases unpacked : x.toModel.unpack with
    | finite sign mantissa exponent positive => exact ⟨rfl, rfl⟩
    | zero sign => exact ⟨rfl, rfl⟩
    | infinity sign =>
        rw [unpacked] at finite
        cases finite
    | notANumber =>
        rw [unpacked] at finite
        cases finite
  unfold Number.text
  dsimp only
  rw [proper.1, proper.2]
  rfl

theorem numberText_text {x : Float} (finite : x.isFinite = true) :
    NumberText (Number.text x) := by
  rw [text_finite finite]
  exact decimal_numberText _ _

theorem ofText?_text {x : Float} (finite : x.isFinite = true) :
    Number.ofText? (Number.text x) = some x := by
  rw [text_finite finite, (decimal_means _ _).read, Number.toFloat_shortest finite]

end Stencil.Json
