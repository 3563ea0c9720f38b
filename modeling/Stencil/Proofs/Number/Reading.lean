import Stencil.Proofs.Json.Numbers

/-! The numbers that texts write. Reading such a text gives the number it writes. -/

namespace Stencil.Number

open Json (Digits Fraction Lacks digit_ne takeWhile_lacks dropWhile_lacks)

inductive PowerMeans : List Char → Int → Prop
  | none : PowerMeans [] 0
  | up {mark sign digits} : mark = 'e' ∨ mark = 'E' → sign = [] ∨ sign = ['+'] → Digits digits →
      PowerMeans (mark :: (sign ++ digits)) (digitsValue digits)
  | down {mark digits} : mark = 'e' ∨ mark = 'E' → Digits digits →
      PowerMeans (mark :: '-' :: digits) (-digitsValue digits)

/-- The decimal that a number writes. Each digit behind the point takes one from the exponent. -/
inductive Means : List Char → Numeral → Prop
  | parts {minus whole fraction power exponent} : minus = [] ∨ minus = ['-'] →
      (∀ c ∈ whole, c.isDigit = true) → Fraction fraction → whole ≠ [] ∨ fraction ≠ [] →
      PowerMeans power exponent →
      Means (minus ++ (whole ++ (fraction ++ power)))
        ⟨minus ≠ [], digitsValue (whole ++ fraction.drop 1),
          exponent - (fraction.drop 1).length⟩

theorem takeSign_plain {c : Char} (rest : List Char) (noMinus : c ≠ '-') (noPlus : c ≠ '+') :
    takeSign (c :: rest) = (false, c :: rest) := by
  unfold takeSign
  split
  next same => exact absurd (List.cons.inj same).1 noMinus
  next same => exact absurd (List.cons.inj same).1 noPlus
  next => rfl

theorem takeSign_digits {digits : List Char} (all : Digits digits) :
    takeSign digits = (false, digits) := by
  cases digits with
  | nil => exact absurd rfl all.1
  | cons c rest =>
      have digit := all.2 c List.mem_cons_self
      exact takeSign_plain rest (digit_ne digit rfl) (digit_ne digit rfl)

theorem PowerMeans.read {power : List Char} {exponent : Int} (means : PowerMeans power exponent) :
    exponent? power = some exponent := by
  cases means with
  | none => rfl
  | up isMark kind all =>
      rcases kind with rfl | rfl
      · have checked := List.all_eq_true.mpr all.2
        simp [exponent?, takeSign_digits all, isMark, all.1, checked]
      · have checked := List.all_eq_true.mpr all.2
        simp [exponent?, takeSign, isMark, all.1, checked]
  | down isMark all =>
      have checked := List.all_eq_true.mpr all.2
      simp [exponent?, takeSign, isMark, all.1, checked]

theorem PowerMeans.lacks {power : List Char} {exponent : Int} (means : PowerMeans power exponent) :
    Lacks (fun c => c.isDigit || c == '.') power := by
  cases means with
  | none => simp [Lacks]
  | up isMark _ _ => rcases isMark with rfl | rfl <;> simp [Lacks]
  | down isMark _ => rcases isMark with rfl | rfl <;> simp [Lacks]

theorem takeFraction_cut {fraction behind : List Char} (isFraction : Fraction fraction)
    (ends : Lacks (fun c => c.isDigit || c == '.') behind) :
    takeFraction (fraction ++ behind) = (fraction.drop 1, behind) := by
  cases isFraction with
  | none =>
      rw [List.nil_append, List.drop_nil]
      unfold takeFraction
      split
      next => cases ends '.' rfl
      next => rfl
  | some digits =>
      have stops : Lacks Char.isDigit behind := ends.mono fun c digit => by simp [digit]
      rw [List.cons_append, takeFraction, takeWhile_lacks digits.2 stops,
        dropWhile_lacks digits.2 stops]
      rfl

theorem takeSign_minus {minus whole fraction : List Char} (kind : minus = [] ∨ minus = ['-'])
    (all : ∀ c ∈ whole, c.isDigit = true) (isFraction : Fraction fraction)
    (some : whole ≠ [] ∨ fraction ≠ []) (behind : List Char) :
    takeSign (minus ++ (whole ++ (fraction ++ behind))) =
      (decide (minus ≠ []), whole ++ (fraction ++ behind)) := by
  rcases kind with rfl | rfl
  · cases whole with
    | nil =>
        cases isFraction with
        | none => simp at some
        | some _ => rfl
    | cons c rest =>
        have digit := all c List.mem_cons_self
        exact takeSign_plain _ (digit_ne digit rfl) (digit_ne digit rfl)
  · rfl

theorem Means.numeral {text : List Char} {numeral : Numeral} (means : Means text numeral) :
    Numeral.ofText? text = some numeral := by
  cases means with
  | @parts minus whole fraction power exponent kind all isFraction some isPower =>
      have stops : Lacks Char.isDigit (fraction ++ power) :=
        isFraction.lacks.append (isPower.lacks.mono fun c digit => by simp [digit])
      have present : ¬(whole = [] ∧ fraction.drop 1 = []) := by
        rintro ⟨rfl, nothing⟩
        cases isFraction with
        | none => simp at some
        | some digits => exact digits.1 nothing
      simp only [Numeral.ofText?, takeSign_minus kind all isFraction some,
        takeWhile_lacks all stops, dropWhile_lacks all stops,
        takeFraction_cut isFraction isPower.lacks, if_neg present, isPower.read,
        Option.map_some]

theorem Means.read {text : List Char} {numeral : Numeral} (means : Means text numeral) :
    ofText? text = some numeral.toFloat := by
  rw [ofText?, means.numeral, Option.map_some]

end Stencil.Number
