import Mathlib.Data.List.TakeWhile
import Stencil.Json.Reader
import Stencil.Proofs.Json.Grammar
import Stencil.Proofs.Json.Utf8
import Stencil.Proofs.Outcome
import Stencil.Source.Lexer

/-! Number literals. Both readers take the longest text that looks like a number, so what stands
behind it must not look like more of it. -/

namespace Stencil.Json

open Numbers (Number)

theorem isDigit_ascii (c : Char) (digit : c.isDigit = true) : isAscii c = true := by
  have bound : c.toNat ≤ 57 := (Char.isDigit_iff_toNat.mp digit).2
  simp only [isAscii, decide_eq_true_eq]
  omega

theorem digit_ne {c d : Char} (digit : c.isDigit = true) (other : d.isDigit = false) : c ≠ d := by
  rintro rfl
  rw [digit] at other
  cases other

def Lacks (p : Char → Bool) (text : List Char) : Prop :=
  ∀ c ∈ text.head?, p c = false

theorem Lacks.mono {p q : Char → Bool} {text : List Char} (lacks : Lacks p text)
    (fewer : ∀ c, q c = true → p c = true) : Lacks q text := by
  intro c head
  cases holds : q c with
  | false => rfl
  | true => exact (fewer c holds).symm.trans (lacks c head)

theorem Lacks.append {p : Char → Bool} {first second : List Char} (front : Lacks p first)
    (behind : Lacks p second) : Lacks p (first ++ second) := by
  cases first with
  | nil => exact behind
  | cons c rest => exact front

theorem takeWhile_lacks {p : Char → Bool} {front behind : List Char}
    (all : ∀ c ∈ front, p c = true) (ends : Lacks p behind) :
    (front ++ behind).takeWhile p = front := by
  rw [List.takeWhile_append_of_pos all]
  cases behind with
  | nil => simp
  | cons c rest =>
      have other : p c = false := ends c rfl
      simp [other]

theorem dropWhile_lacks {p : Char → Bool} {front behind : List Char}
    (all : ∀ c ∈ front, p c = true) (ends : Lacks p behind) :
    (front ++ behind).dropWhile p = behind := by
  have whole := List.takeWhile_append_dropWhile (p := p) (l := front ++ behind)
  rw [takeWhile_lacks all ends] at whole
  exact List.append_cancel_left whole

theorem digits_takeWhile (text : List Char) (some : text.takeWhile Char.isDigit ≠ []) :
    Digits (text.takeWhile Char.isDigit) :=
  ⟨some, List.all_eq_true.mp List.all_takeWhile⟩

def leading (p : Char → Bool) (text : List Char) : List Char :=
  (text.take 1).filter p

theorem leading_cons (p : Char → Bool) (c : Char) (rest : List Char) :
    leading p (c :: rest) = if p c then [c] else [] := by
  simp [leading, List.filter_cons]

theorem leading_append_drop (p : Char → Bool) (text : List Char) :
    leading p text ++ text.drop (leading p text).length = text := by
  cases text with
  | nil => rfl
  | cons c rest =>
      rw [leading_cons]
      split <;> simp

theorem leading_encode {p : Char → Bool} (narrow : ∀ c, p c = true → isAscii c = true)
    (text : List Char) :
    ((encode text).take 1).filter (fun b => p (charOf b)) = encode (leading p text) := by
  cases text with
  | nil => rfl
  | cons c rest =>
      obtain ⟨b, bytes, spelled, view⟩ := encode_cons_view c rest
      rw [spelled, leading_cons]
      rcases view with ⟨ascii, rfl, rfl⟩ | ⟨foreign, high⟩
      · cases holds : p (charOf b) with
        | true =>
            rw [encode_cons_ascii rest ascii, List.cons.injEq] at spelled
            rw [if_pos rfl, encode_cons_ascii [] ascii, spelled.1]
            simp [holds]
        | false => simp [holds]
      · have outside : p c = false := by
          cases holds : p c with
          | true => rw [narrow c holds] at foreign; cases foreign
          | false => rfl
        simp [charOf_foreign narrow high, outside]

theorem drop_encode_append (used behind : List Char) :
    (encode (used ++ behind)).drop (encode used).length = encode behind := by
  rw [encode_append, List.drop_left]

theorem wholeText_sound {text : List Char} {bytes : List UInt8}
    (run : wholeText (encode text) = .ok bytes) :
    ∃ used behind, text = used ++ behind ∧ bytes = encode used ∧ Whole used := by
  cases spelled : encode text with
  | nil => rw [spelled] at run; cases run
  | cons b rest =>
      rw [spelled] at run
      simp only [wholeText] at run
      have zero : charOf b = '0' → bytes = [b] →
          ∃ used behind, text = used ++ behind ∧ bytes = encode used ∧ Whole used := by
        rintro isZero rfl
        obtain ⟨behind, rfl, rfl⟩ := encode_eq_cons spelled (by rw [isZero]; rfl)
        rw [isZero, encode_cons_ascii _ rfl, List.cons.injEq] at spelled
        refine ⟨['0'], behind, by simp [isZero], ?_, ⟨by simp, by simp⟩, fun _ => rfl⟩
        rw [encode_cons_ascii _ rfl, spelled.1]
        rfl
      split at run
      next isZero =>
        split at run
        next =>
          cases run
          exact zero isZero rfl
        next =>
          split at run
          next => cases run
          next =>
            cases run
            exact zero isZero rfl
      next notZero =>
        split at run
        next digit =>
          cases run
          obtain ⟨behind, rfl, rfl⟩ := encode_eq_cons spelled (isDigit_ascii _ digit)
          have front : b :: (encode behind).takeWhile isDigit =
              encode ((charOf b :: behind).takeWhile Char.isDigit) := by
            rw [← takeWhile_encode isDigit_ascii, spelled]
            exact (List.takeWhile_cons_of_pos digit).symm
          have taken : (charOf b :: behind).takeWhile Char.isDigit =
              charOf b :: behind.takeWhile Char.isDigit := List.takeWhile_cons_of_pos digit
          refine ⟨_, _, List.takeWhile_append_dropWhile.symm, front,
            digits_takeWhile _ (by simp [taken]), ?_⟩
          rw [taken]
          intro same
          exact absurd (Option.some.inj same) notZero
        next => cases run

theorem fractionText_sound {text : List Char} {bytes : List UInt8}
    (run : fractionText (encode text) = .ok bytes) :
    ∃ used behind, text = used ++ behind ∧ bytes = encode used ∧ Fraction used := by
  cases spelled : encode text with
  | nil =>
      rw [spelled] at run
      cases run
      exact ⟨[], text, rfl, rfl, .none⟩
  | cons b rest =>
      rw [spelled] at run
      simp only [fractionText] at run
      split at run
      next point =>
        split at run
        next => cases run
        next some =>
          cases run
          obtain ⟨behind, rfl, rfl⟩ := encode_eq_cons spelled (by rw [point]; rfl)
          rw [point, encode_cons_ascii _ rfl, List.cons.injEq] at spelled
          have front := takeWhile_encode isDigit_ascii behind
          change (encode behind).takeWhile isDigit = _ at front
          rw [front] at some
          refine ⟨'.' :: behind.takeWhile Char.isDigit, behind.dropWhile Char.isDigit, ?_, ?_,
            .some (digits_takeWhile _ fun nothing => some (by rw [nothing]; rfl))⟩
          · rw [List.cons_append, List.takeWhile_append_dropWhile, point]
          · rw [encode_cons_ascii _ rfl, spelled.1, front]
      next =>
        cases run
        exact ⟨[], text, rfl, rfl, .none⟩

def isSign (c : Char) : Bool :=
  c == '+' || c == '-'

theorem isSign_ascii (c : Char) (sign : isSign c = true) : isAscii c = true := by
  rcases Bool.or_eq_true _ _ |>.mp sign with plus | minus
  · rw [beq_iff_eq.mp plus]; rfl
  · rw [beq_iff_eq.mp minus]; rfl

theorem sign_cut (text : List Char) :
    ∃ sign behind, text = sign ++ behind ∧ (sign = [] ∨ sign = ['+'] ∨ sign = ['-']) ∧
      ((encode text).take 1).filter (fun b => charOf b == '+' || charOf b == '-') =
        encode sign := by
  refine ⟨leading isSign text, _, (leading_append_drop isSign text).symm, ?_,
    leading_encode isSign_ascii text⟩
  cases text with
  | nil => exact Or.inl rfl
  | cons c rest =>
      rw [leading_cons]
      split
      next sign =>
        rcases Bool.or_eq_true _ _ |>.mp sign with plus | minus
        · exact Or.inr (Or.inl (by rw [beq_iff_eq.mp plus]))
        · exact Or.inr (Or.inr (by rw [beq_iff_eq.mp minus]))
      next => exact Or.inl rfl

theorem isMark_ascii {c : Char} (isMark : c = 'e' ∨ c = 'E') : isAscii c = true := by
  rcases isMark with rfl | rfl <;> rfl

theorem exponentText_sound {text : List Char} {bytes : List UInt8}
    (run : exponentText (encode text) = .ok bytes) :
    ∃ used behind, text = used ++ behind ∧ bytes = encode used ∧ Exponent used := by
  cases spelled : encode text with
  | nil =>
      rw [spelled] at run
      cases run
      exact ⟨[], text, rfl, rfl, .none⟩
  | cons b rest =>
      rw [spelled] at run
      simp only [exponentText] at run
      split at run
      next isMark =>
        obtain ⟨behind, rfl, rfl⟩ := encode_eq_cons spelled (isMark_ascii isMark)
        obtain ⟨sign, after, rfl, kind, signBytes⟩ := sign_cut behind
        rw [signBytes, drop_encode_append] at run
        split at run
        next => cases run
        next first others spelledDigits =>
          split at run
          next digit =>
            cases run
            have front := takeWhile_encode isDigit_ascii after
            rw [spelledDigits] at front
            have taken : first :: others.takeWhile isDigit =
                encode (after.takeWhile Char.isDigit) :=
              (List.takeWhile_cons_of_pos digit).symm.trans front
            have some := digits_takeWhile after fun nothing => by
              rw [nothing] at taken
              cases taken
            refine ⟨charOf b :: (sign ++ after.takeWhile Char.isDigit),
              after.dropWhile Char.isDigit, by simp, ?_, .some isMark kind some⟩
            rw [encode_cons_ascii _ (isMark_ascii isMark), List.cons.injEq] at spelled
            rw [encode_cons_ascii _ (isMark_ascii isMark), encode_append, spelled.1, taken]
          next => cases run
      next =>
        cases run
        exact ⟨[], text, rfl, rfl, .none⟩

theorem minus_ascii (c : Char) (minus : (c == '-') = true) : isAscii c = true := by
  rw [beq_iff_eq.mp minus]
  rfl

theorem minus_cut (text : List Char) :
    ∃ minus behind, text = minus ++ behind ∧ (minus = [] ∨ minus = ['-']) ∧
      ((encode text).take 1).filter (fun b => charOf b == '-') = encode minus := by
  refine ⟨leading (· == '-') text, _, (leading_append_drop _ text).symm, ?_,
    leading_encode minus_ascii text⟩
  cases text with
  | nil => exact Or.inl rfl
  | cons c rest =>
      rw [leading_cons]
      split
      next minus => exact Or.inr (by rw [beq_iff_eq.mp minus])
      next => exact Or.inl rfl

theorem numberText_sound {text : List Char} {bytes : List UInt8}
    (run : numberText (encode text) = .ok bytes) :
    ∃ used behind, text = used ++ behind ∧ bytes = encode used ∧ NumberText used := by
  obtain ⟨minus, behind, rfl, kind, minusBytes⟩ := minus_cut text
  rw [numberText, minusBytes, drop_encode_append] at run
  obtain ⟨_, wholeRun, run⟩ := bind_eq_ok.mp run
  obtain ⟨whole, behind, rfl, rfl, isWhole⟩ := wholeText_sound wholeRun
  dsimp only at run
  rw [← encode_append, ← List.append_assoc, drop_encode_append] at run
  obtain ⟨_, fractionRun, run⟩ := bind_eq_ok.mp run
  obtain ⟨fraction, behind, rfl, rfl, isFraction⟩ := fractionText_sound fractionRun
  rw [← encode_append, ← List.append_assoc, drop_encode_append] at run
  obtain ⟨_, exponentRun, same⟩ := bind_eq_ok.mp run
  obtain ⟨exponent, behind, rfl, rfl, isExponent⟩ := exponentText_sound exponentRun
  cases same
  exact ⟨minus ++ (whole ++ (fraction ++ exponent)), behind, by simp, by simp,
    .parts kind isWhole isFraction isExponent⟩

/-! The other direction: a number is read when nothing that continues it stands behind. -/

theorem lacks_encode {p : Char → Bool} (narrow : ∀ c, p c = true → isAscii c = true)
    {behind : List Char} (lacks : Lacks p behind) {b : UInt8} {bytes : List UInt8}
    (spelled : encode behind = b :: bytes) : p (charOf b) = false := by
  cases holds : p (charOf b) with
  | false => rfl
  | true =>
      obtain ⟨rest, rfl, _⟩ := encode_eq_cons spelled (narrow _ holds)
      exact holds.symm.trans (lacks _ rfl)

theorem takeWhile_isDigit {digits behind : List Char} (all : ∀ c ∈ digits, c.isDigit = true)
    (ends : Lacks Char.isDigit behind) :
    (encode (digits ++ behind)).takeWhile isDigit = encode digits := by
  have front := takeWhile_encode isDigit_ascii (digits ++ behind)
  rw [takeWhile_lacks all ends] at front
  exact front

theorem wholeText_complete {whole behind : List Char} (isWhole : Whole whole)
    (ends : Lacks Char.isDigit behind) :
    wholeText (encode (whole ++ behind)) = .ok (encode whole) := by
  obtain ⟨⟨some, all⟩, noZero⟩ := isWhole
  cases whole with
  | nil => exact absurd rfl some
  | cons c digits =>
      have digit := all c List.mem_cons_self
      have ascii := isDigit_ascii c digit
      have first := charOf_ofNat ascii
      have others := fun d member => all d (List.mem_cons_of_mem c member)
      rw [List.cons_append, encode_cons_ascii _ ascii, encode_cons_ascii _ ascii]
      simp only [wholeText, first]
      by_cases zero : c = '0'
      · subst zero
        obtain rfl : digits = [] := List.tail_eq_of_cons_eq (noZero rfl)
        rw [if_pos rfl, List.nil_append]
        cases spelled : encode behind with
        | nil => rfl
        | cons b bytes =>
            have other : isDigit b = false := lacks_encode isDigit_ascii ends spelled
            simp [other]
      · have front := takeWhile_isDigit others ends
        have isDigitByte : isDigit (UInt8.ofNat c.toNat) = true := by
          rw [isDigit, first]
          exact digit
        rw [if_neg zero, if_pos isDigitByte]
        exact congrArg (fun more => Except.ok (UInt8.ofNat c.toNat :: more)) front

theorem fractionText_complete {fraction behind : List Char} (isFraction : Fraction fraction)
    (ends : Lacks Char.isDigit behind) (noPoint : Lacks (· == '.') behind) :
    fractionText (encode (fraction ++ behind)) = .ok (encode fraction) := by
  cases isFraction with
  | none =>
      rw [List.nil_append]
      cases spelled : encode behind with
      | nil => rfl
      | cons b bytes =>
          have other := lacks_encode (fun c point => by rw [beq_iff_eq.mp point]; rfl) noPoint
            spelled
          simp only [fractionText, beq_eq_false_iff_ne.mp other, if_false]
          rfl
  | @some digits digitsText =>
      have point : charOf (UInt8.ofNat '.'.toNat) = '.' := rfl
      have front := takeWhile_isDigit digitsText.2 ends
      have some : encode digits ≠ [] := fun nothing => digitsText.1 (encode_eq_nil.mp nothing)
      rw [List.cons_append, encode_cons_ascii _ rfl, encode_cons_ascii _ rfl]
      simp only [fractionText, point, if_true, front, some, if_false]

theorem leading_digits {p : Char → Bool} (noDigit : ∀ c, p c = true → c.isDigit = false)
    {digits : List Char} (all : Digits digits) (behind : List Char) :
    leading p (digits ++ behind) = [] := by
  obtain ⟨some, all⟩ := all
  cases digits with
  | nil => exact absurd rfl some
  | cons c rest =>
      have digit := all c List.mem_cons_self
      rw [List.cons_append, leading_cons, if_neg]
      intro holds
      rw [noDigit c holds] at digit
      cases digit

theorem isSign_noDigit (c : Char) (sign : isSign c = true) : c.isDigit = false := by
  rcases Bool.or_eq_true _ _ |>.mp sign with plus | minus
  · rw [beq_iff_eq.mp plus]; rfl
  · rw [beq_iff_eq.mp minus]; rfl

theorem leading_isSign {sign digits : List Char}
    (kind : sign = [] ∨ sign = ['+'] ∨ sign = ['-']) (all : Digits digits)
    (behind : List Char) : leading isSign (sign ++ (digits ++ behind)) = sign := by
  rcases kind with rfl | rfl | rfl
  · exact leading_digits isSign_noDigit all behind
  · rfl
  · rfl

def isMark (c : Char) : Bool :=
  c == 'e' || c == 'E'

theorem exponentText_complete {exponent behind : List Char}
    (isExponent : Exponent exponent) (ends : Lacks Char.isDigit behind)
    (noMark : Lacks isMark behind) :
    exponentText (encode (exponent ++ behind)) = .ok (encode exponent) := by
  cases isExponent with
  | none =>
      rw [List.nil_append]
      cases spelled : encode behind with
      | nil => rfl
      | cons b bytes =>
          have other := lacks_encode (p := isMark)
            (fun c mark => isMark_ascii (by simpa [isMark] using mark)) noMark spelled
          simp only [isMark, Bool.or_eq_false_iff, beq_eq_false_iff_ne] at other
          simp only [exponentText, other.1, other.2, or_self, if_false]
          rfl
  | @some mark sign digits isMark kind digitsText =>
      have ascii := isMark_ascii isMark
      have first := charOf_ofNat ascii
      have signBytes := leading_encode isSign_ascii (sign ++ (digits ++ behind))
      rw [leading_isSign kind digitsText] at signBytes
      change List.filter (fun b => charOf b == '+' || charOf b == '-') _ = _ at signBytes
      have front := takeWhile_isDigit digitsText.2 ends
      rw [List.cons_append, encode_cons_ascii _ ascii, encode_cons_ascii _ ascii,
        List.append_assoc]
      simp only [exponentText, first, isMark, if_true, signBytes, drop_encode_append]
      have some : encode digits ≠ [] := fun nothing => digitsText.1 (encode_eq_nil.mp nothing)
      cases spelled : encode (digits ++ behind) with
      | nil =>
          rw [encode_append, List.append_eq_nil_iff] at spelled
          exact absurd spelled.1 some
      | cons b bytes =>
          rw [spelled] at front
          have digit : isDigit b = true := by
            cases holds : isDigit b with
            | true => rfl
            | false =>
                rw [List.takeWhile_cons_of_neg (by simp [holds])] at front
                exact absurd front.symm some
          rw [List.takeWhile_cons_of_pos digit] at front
          simp only [digit, if_true, front]
          rw [encode_append]

theorem Fraction.lacks {fraction : List Char} (isFraction : Fraction fraction) :
    Lacks Char.isDigit fraction := by
  cases isFraction with
  | none => simp [Lacks]
  | some _ => simp [Lacks]

theorem Exponent.lacks {exponent : List Char} (isExponent : Exponent exponent) :
    Lacks (fun c => c.isDigit || c == '.') exponent := by
  cases isExponent with
  | none => simp [Lacks]
  | some isMark _ _ => rcases isMark with rfl | rfl <;> simp [Lacks]

def continuesNumber (c : Char) : Bool :=
  c.isDigit || c == '.' || isMark c

theorem leading_minus {minus whole : List Char} (kind : minus = [] ∨ minus = ['-'])
    (isWhole : Whole whole) (behind : List Char) :
    leading (· == '-') (minus ++ (whole ++ behind)) = minus := by
  rcases kind with rfl | rfl
  · exact leading_digits (fun c same => by rw [beq_iff_eq.mp same]; rfl) isWhole.1 _
  · rfl

theorem numberText_complete {used behind : List Char} (isNumber : NumberText used)
    (ends : Lacks continuesNumber behind) :
    numberText (encode (used ++ behind)) = .ok (encode used) := by
  cases isNumber with
  | @parts minus whole fraction exponent kind isWhole isFraction isExponent =>
      have minusBytes := leading_encode minus_ascii
        (minus ++ (whole ++ (fraction ++ (exponent ++ behind))))
      rw [leading_minus kind isWhole] at minusBytes
      have afterFraction := isExponent.lacks.append (ends.mono fun c more => by
        rw [continuesNumber, more, Bool.true_or])
      have noDigit := afterFraction.mono (q := Char.isDigit) fun c digit => by simp [digit]
      have noPoint := afterFraction.mono (q := (· == '.')) fun c point => by simp [point]
      have wholeRun := wholeText_complete isWhole (isFraction.lacks.append noDigit)
      have fractionRun := fractionText_complete isFraction noDigit noPoint
      have exponentRun := exponentText_complete isExponent
        (ends.mono fun c digit => by simp [continuesNumber, digit])
        (ends.mono fun c mark => by simp [continuesNumber, mark])
      have regroup : minus ++ (whole ++ (fraction ++ exponent)) ++ behind =
          minus ++ (whole ++ (fraction ++ (exponent ++ behind))) := by simp
      rw [regroup, numberText, minusBytes, drop_encode_append]
      refine bind_eq_ok.mpr ⟨_, wholeRun, ?_⟩
      dsimp only
      rw [← encode_append, ← List.append_assoc, drop_encode_append]
      refine bind_eq_ok.mpr ⟨_, fractionRun, ?_⟩
      rw [← encode_append, ← List.append_assoc, drop_encode_append]
      refine bind_eq_ok.mpr ⟨_, exponentRun, ?_⟩
      rw [← encode_append]
      simp [pure, Except.pure]

/-- The characters of a number lie between the plus sign and the letter e. -/
theorem NumberText.bounds {used : List Char} (isNumber : NumberText used) :
    ∀ c ∈ used, 0x2b ≤ c.toNat ∧ c.toNat ≤ 0x65 := by
  have digits : ∀ {text : List Char}, Digits text → ∀ c ∈ text,
      0x2b ≤ c.toNat ∧ c.toNat ≤ 0x65 := by
    intro text all c member
    obtain ⟨low, high⟩ := Char.isDigit_iff_toNat.mp (all.2 c member)
    change 48 ≤ c.toNat at low
    change c.toNat ≤ 57 at high
    omega
  cases isNumber with
  | parts minus isWhole isFraction isExponent =>
      simp only [List.forall_mem_append]
      refine ⟨?_, digits isWhole.1, ?_, ?_⟩
      · rcases minus with rfl | rfl <;> simp
      · cases isFraction with
        | none => simp
        | some isDigits => exact List.forall_mem_cons.mpr ⟨by decide, digits isDigits⟩
      · cases isExponent with
        | none => simp
        | some isMark sign isDigits =>
            simp only [List.forall_mem_cons, List.forall_mem_append]
            refine ⟨?_, ?_, digits isDigits⟩
            · rcases isMark with rfl | rfl <;> decide
            · rcases sign with rfl | rfl | rfl <;> simp

theorem NumberText.ascii {used : List Char} (isNumber : NumberText used) :
    ∀ c ∈ used, isAscii c = true := by
  intro c member
  obtain ⟨_, high⟩ := isNumber.bounds c member
  simp only [isAscii, decide_eq_true_eq]
  omega

theorem NumberText.starts {used : List Char} (isNumber : NumberText used) :
    ∃ c rest, used = c :: rest ∧ (c.isDigit = true ∨
      c = '-' ∧ ∃ d more, rest = d :: more ∧ d.isDigit = true) := by
  cases isNumber with
  | @parts minus whole _ _ kind isWhole _ _ =>
      obtain ⟨⟨some, all⟩, _⟩ := isWhole
      cases whole with
      | nil => exact absurd rfl some
      | cons d digits =>
          have digit := all d List.mem_cons_self
          rcases kind with rfl | rfl
          · exact ⟨d, _, rfl, Or.inl digit⟩
          · exact ⟨'-', _, rfl, Or.inr ⟨rfl, d, _, rfl, digit⟩⟩

theorem NumberText.drop {used behind : List Char} (isNumber : NumberText used) {first : UInt8}
    {rest : List UInt8} (spelled : encode (used ++ behind) = first :: rest) :
    rest.drop ((encode used).length - 1) = encode behind := by
  obtain ⟨c, more, same, _⟩ := isNumber.starts
  have size : (encode used).length = (encode used).length - 1 + 1 := by
    rw [length_encode isNumber.ascii, same]
    rfl
  rw [← drop_encode_append used behind, spelled, size]
  rfl

theorem number_sound [Numbers] {text : List Char} {first : UInt8} {rest : List UInt8}
    (spelled : encode text = first :: rest) {read : Read (Document Number) (first :: rest)}
    (run : number first rest = .ok read) :
    ∃ used behind n, text = used ++ behind ∧ read.rest = encode behind ∧
      NumberText used ∧ Numbers.ofText? used = some n ∧ read.result = .number n := by
  obtain ⟨_, textRun, run⟩ := bind_eq_ok.mp run
  rw [← spelled] at textRun
  obtain ⟨used, behind, rfl, rfl, isNumber⟩ := numberText_sound textRun
  simp only [ascii_encode isNumber.ascii, isNumber.drop spelled] at run
  split at run
  next => cases run
  next n meant =>
    cases run
    exact ⟨used, behind, n, rfl, rfl, isNumber, meant, rfl⟩

theorem number_complete [Numbers] {used behind : List Char} {n : Number}
    (isNumber : NumberText used) (meant : Numbers.ofText? used = some n)
    (ends : Lacks continuesNumber behind) {first : UInt8} {rest : List UInt8}
    (spelled : encode (used ++ behind) = first :: rest) :
    ∃ read, number first rest = .ok read ∧ read.result = .number n ∧
      read.rest = encode behind := by
  have textRun := numberText_complete isNumber ends
  rw [spelled] at textRun
  refine ⟨⟨.number n, _, length_drop_lt first rest ((encode used).length - 1)⟩,
    bind_eq_ok.mpr ⟨_, textRun, ?_⟩, rfl, isNumber.drop spelled⟩
  simp only [ascii_encode isNumber.ascii, meant]
  rfl

theorem Fraction.scanned {fraction behind : List Char} (isFraction : Fraction fraction)
    (ends : Lacks (fun c => c.isDigit || c == '.') behind) :
    Source.fractionText (fraction ++ behind) = fraction := by
  cases isFraction with
  | none =>
      cases behind with
      | nil => rfl
      | cons c rest =>
          have other := ends c rfl
          simp only [Bool.or_eq_false_iff, beq_eq_false_iff_ne] at other
          rw [List.nil_append, Source.fractionText]
          intro d more same
          exact absurd (List.cons.inj same).1 other.2
  | @some digits digitsText =>
      obtain ⟨some, all⟩ := digitsText
      cases digits with
      | nil => exact absurd rfl some
      | cons d digits =>
          have others := fun c member => all c (List.mem_cons_of_mem d member)
          have front := takeWhile_lacks others (ends.mono fun c digit => by simp [digit])
          have digit := all d List.mem_cons_self
          simp only [List.cons_append, Source.fractionText, digit, if_true, front]

theorem signText_eq (text : List Char) : Source.signText text = leading isSign text := by
  cases text with
  | nil => rfl
  | cons c rest =>
      rw [leading_cons]
      unfold Source.signText
      split
      next same => cases same; rfl
      next same => cases same; rfl
      next plus minus =>
        rw [if_neg]
        intro sign
        rcases Bool.or_eq_true _ _ |>.mp sign with isPlus | isMinus
        · exact plus _ (congrArg (· :: rest) (beq_iff_eq.mp isPlus))
        · exact minus _ (congrArg (· :: rest) (beq_iff_eq.mp isMinus))

theorem minusText_eq (text : List Char) : Source.minusText text = leading (· == '-') text := by
  cases text with
  | nil => rfl
  | cons c rest =>
      rw [leading_cons]
      unfold Source.minusText
      split
      next same => cases same; rfl
      next minus =>
        rw [if_neg]
        intro isMinus
        exact minus _ (congrArg (· :: rest) (beq_iff_eq.mp isMinus))

theorem Exponent.scanned {exponent behind : List Char} (isExponent : Exponent exponent)
    (ends : Lacks Char.isDigit behind)
    (noMark : Lacks isMark behind) : Source.exponentText (exponent ++ behind) = exponent := by
  cases isExponent with
  | none =>
      cases behind with
      | nil => rfl
      | cons c rest =>
          have other := noMark c rfl
          simp only [isMark, Bool.or_eq_false_iff, beq_eq_false_iff_ne] at other
          simp only [List.nil_append, Source.exponentText, other.1, other.2, or_self, if_false]
  | @some mark sign digits isMark kind digitsText =>
      have signed : Source.signText (sign ++ (digits ++ behind)) = sign := by
        rw [signText_eq, leading_isSign kind digitsText]
      have front := takeWhile_lacks digitsText.2 ends
      simp only [List.cons_append, List.append_assoc, Source.exponentText, isMark, if_true, signed,
        List.drop_left, front, digitsText.1, if_false]

theorem NumberText.scanned {used behind : List Char} (isNumber : NumberText used)
    (ends : Lacks continuesNumber behind) : Source.numberText (used ++ behind) = used := by
  cases isNumber with
  | @parts minus whole fraction exponent kind isWhole isFraction isExponent =>
      have afterFraction := isExponent.lacks.append (ends.mono fun c more => by
        rw [continuesNumber, more, Bool.true_or])
      have afterWhole :=
        isFraction.lacks.append (afterFraction.mono fun c digit => by simp [digit])
      have minusTaken : Source.minusText
          (minus ++ (whole ++ (fraction ++ (exponent ++ behind)))) = minus := by
        rw [minusText_eq, leading_minus kind isWhole]
      have wholeTaken := takeWhile_lacks isWhole.1.2 afterWhole
      have fractionTaken := isFraction.scanned afterFraction
      have exponentTaken := isExponent.scanned
        (ends.mono fun c digit => by simp [continuesNumber, digit])
        (ends.mono fun c mark => by simp [continuesNumber, mark])
      have regroup : minus ++ (whole ++ (fraction ++ exponent)) ++ behind =
          minus ++ (whole ++ (fraction ++ (exponent ++ behind))) := by simp
      rw [regroup, Source.numberText, minusTaken, List.drop_left, wholeTaken]
      rw [← List.append_assoc, List.drop_left, fractionTaken, ← List.append_assoc, List.drop_left,
        exponentTaken]
      simp

end Stencil.Json
