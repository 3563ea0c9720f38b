import Stencil.Proofs.Json.Numbers
import Stencil.Proofs.Json.Strings
import Stencil.Proofs.Tokens

/-! The texts of numbers and strings in a template. The scanner takes the longest number there is,
and a string up to its closing quote. -/

namespace Stencil.Source

open Json (Digits Escape Fraction HexQuad digit_ne digits_takeWhile)

inductive PowerText : List Char → Prop
  | none : PowerText []
  | some {mark sign digits} : mark = 'e' ∨ mark = 'E' → sign = [] ∨ sign = ['+'] ∨ sign = ['-'] →
      Digits digits → PowerText (mark :: (sign ++ digits))

/-- A number of a template. It has digits in front of the point or behind it. -/
inductive NumeralText : List Char → Prop
  | parts {minus whole fraction power} : minus = [] ∨ minus = ['-'] →
      (∀ c ∈ whole, c.isDigit = true) → Fraction fraction → whole ≠ [] ∨ fraction ≠ [] →
      PowerText power → NumeralText (minus ++ (whole ++ (fraction ++ power)))

theorem minusText_kind (text : List Char) : minusText text = [] ∨ minusText text = ['-'] := by
  unfold minusText
  split
  · exact Or.inr rfl
  · exact Or.inl rfl

theorem signText_kind (text : List Char) :
    signText text = [] ∨ signText text = ['+'] ∨ signText text = ['-'] := by
  unfold signText
  split
  · exact Or.inr (Or.inl rfl)
  · exact Or.inr (Or.inr rfl)
  · exact Or.inl rfl

theorem takeWhile_digits (text : List Char) :
    ∀ c ∈ text.takeWhile Char.isDigit, c.isDigit = true :=
  List.all_eq_true.mp List.all_takeWhile

theorem fractionText_kind (text : List Char) : Fraction (fractionText text) := by
  unfold fractionText
  split
  · split
    next c rest digit =>
      exact .some ⟨List.cons_ne_nil _ _, List.forall_mem_cons.mpr ⟨digit, takeWhile_digits rest⟩⟩
    next => exact .none
  · exact .none

theorem exponentText_kind (text : List Char) : PowerText (exponentText text) := by
  unfold exponentText
  split
  · exact .none
  · split
    next isMark =>
      dsimp only
      split
      next => exact .none
      next some => exact .some isMark (signText_kind _) (digits_takeWhile _ some)
    next => exact .none

theorem fractionText_more {digits : List Char} (all : Digits digits) (behind : List Char) :
    fractionText ('.' :: (digits ++ behind)) =
      '.' :: (digits ++ behind.takeWhile Char.isDigit) := by
  obtain ⟨some, all⟩ := all
  cases digits with
  | nil => exact absurd rfl some
  | cons d rest =>
      obtain ⟨digit, others⟩ := List.forall_mem_cons.mp all
      simp only [List.cons_append, fractionText, digit, if_true,
        List.takeWhile_append_of_pos others]

theorem exponentText_more {mark : Char} {sign digits : List Char}
    (isMark : mark = 'e' ∨ mark = 'E') (kind : sign = [] ∨ sign = ['+'] ∨ sign = ['-'])
    (all : Digits digits) (behind : List Char) :
    exponentText (mark :: (sign ++ (digits ++ behind))) =
      mark :: (sign ++ (digits ++ behind.takeWhile Char.isDigit)) := by
  have signed : signText (sign ++ (digits ++ behind)) = sign := by
    rw [Json.signText_eq, Json.leading_isSign kind all]
  have some : digits ++ behind.takeWhile Char.isDigit ≠ [] := by simp [all.1]
  simp only [exponentText, isMark, if_true, signed, List.drop_left,
    List.takeWhile_append_of_pos all.2, some, if_false]

theorem minusText_minus {minus whole fraction : List Char} (kind : minus = [] ∨ minus = ['-'])
    (all : ∀ c ∈ whole, c.isDigit = true) (isFraction : Fraction fraction)
    (some : whole ≠ [] ∨ fraction ≠ []) (behind : List Char) :
    minusText (minus ++ (whole ++ (fraction ++ behind))) = minus := by
  rcases kind with rfl | rfl
  · cases whole with
    | nil =>
        cases isFraction with
        | none => simp at some
        | some _ => rfl
    | cons c rest =>
        have other : c ≠ '-' := digit_ne (all c List.mem_cons_self) rfl
        simp [minusText, other]
  · rfl

/-- What the scanner takes, if each part is taken in front of the next. -/
theorem numberText_cut {minus whole fraction behind : List Char}
    (minusTaken : minusText (minus ++ (whole ++ (fraction ++ behind))) = minus)
    (wholeTaken : (whole ++ (fraction ++ behind)).takeWhile Char.isDigit = whole)
    (fractionTaken : fractionText (fraction ++ behind) = fraction) :
    numberText (minus ++ (whole ++ (fraction ++ behind))) =
      minus ++ (whole ++ (fraction ++ exponentText behind)) := by
  simp only [numberText, minusTaken, List.drop_left, wholeTaken]
  rw [← List.append_assoc, List.drop_left, fractionTaken, ← List.append_assoc, List.drop_left]
  simp

theorem PowerText.lacks {power : List Char} (isPower : PowerText power) (some : power ≠ [])
    (behind : List Char) :
    (power ++ behind).takeWhile Char.isDigit = [] ∧ fractionText (power ++ behind) = [] := by
  cases isPower with
  | none => exact absurd rfl some
  | some isMark _ _ => rcases isMark with rfl | rfl <;> exact ⟨rfl, rfl⟩

theorem PowerText.more {power : List Char} (isPower : PowerText power) (some : power ≠ [])
    (behind : List Char) : PowerText (exponentText (power ++ behind)) ∧
      power <+: exponentText (power ++ behind) := by
  refine ⟨exponentText_kind _, ?_⟩
  cases isPower with
  | none => exact absurd rfl some
  | @some mark sign digits isMark kind all =>
      rw [List.cons_append, List.append_assoc, exponentText_more isMark kind all]
      exact ⟨behind.takeWhile Char.isDigit, by simp⟩

section

variable {minus whole : List Char} (kind : minus = [] ∨ minus = ['-'])
  (all : ∀ c ∈ whole, c.isDigit = true)
include kind all

theorem numberText_whole (some : whole ≠ []) (behind : List Char) :
    NumeralText (numberText (minus ++ (whole ++ behind))) ∧
      minus ++ whole <+: numberText (minus ++ (whole ++ behind)) := by
  have cut : behind.takeWhile Char.isDigit ++ behind.dropWhile Char.isDigit = behind :=
    List.takeWhile_append_dropWhile
  obtain ⟨rest, left⟩ := fractionText_front (behind.dropWhile Char.isDigit)
  have longer : whole ++ behind = (whole ++ behind.takeWhile Char.isDigit) ++
      (fractionText (behind.dropWhile Char.isDigit) ++ rest) := by
    rw [left, List.append_assoc, cut]
  have minusTaken := minusText_minus kind all .none (Or.inl some) behind
  have wholeTaken : (whole ++ behind).takeWhile Char.isDigit =
      whole ++ behind.takeWhile Char.isDigit := List.takeWhile_append_of_pos all
  rw [List.nil_append, longer] at minusTaken
  rw [longer] at wholeTaken ⊢
  rw [numberText_cut minusTaken wholeTaken (by rw [left])]
  refine ⟨.parts kind ?_ (fractionText_kind _) (Or.inl (by simp [some])) (exponentText_kind _), ?_⟩
  · exact List.forall_mem_append.mpr ⟨all, takeWhile_digits behind⟩
  · simp

theorem numberText_fraction {digits : List Char} (isDigits : Digits digits) (behind : List Char) :
    NumeralText (numberText (minus ++ (whole ++ ('.' :: digits ++ behind)))) ∧
      minus ++ (whole ++ '.' :: digits) <+:
        numberText (minus ++ (whole ++ ('.' :: digits ++ behind))) := by
  have longer : '.' :: digits ++ behind = '.' :: (digits ++
      behind.takeWhile Char.isDigit) ++ behind.dropWhile Char.isDigit := by
    rw [List.cons_append, List.cons_append, List.append_assoc, List.takeWhile_append_dropWhile]
  have some : whole ≠ [] ∨ '.' :: digits ≠ [] := Or.inr (List.cons_ne_nil _ _)
  have minusTaken := minusText_minus kind all (.some isDigits) some behind
  have wholeTaken : (whole ++ ('.' :: digits ++ behind)).takeWhile Char.isDigit = whole := by
    rw [List.takeWhile_append_of_pos all]
    simp
  have fractionTaken := fractionText_more isDigits behind
  rw [← List.cons_append, longer] at fractionTaken
  rw [longer] at minusTaken wholeTaken ⊢
  rw [numberText_cut minusTaken wholeTaken fractionTaken]
  refine ⟨.parts kind all (.some ⟨?_, ?_⟩) (Or.inr (List.cons_ne_nil _ _)) (exponentText_kind _),
    ?_⟩
  · simp [isDigits.1]
  · exact List.forall_mem_append.mpr ⟨isDigits.2, takeWhile_digits behind⟩
  · simp

theorem numberText_power {fraction power : List Char} (isFraction : Fraction fraction)
    (some : whole ≠ [] ∨ fraction ≠ []) (isPower : PowerText power) (marked : power ≠ [])
    (behind : List Char) :
    NumeralText (numberText (minus ++ (whole ++ (fraction ++ (power ++ behind))))) ∧
      minus ++ (whole ++ (fraction ++ power)) <+:
        numberText (minus ++ (whole ++ (fraction ++ (power ++ behind)))) := by
  obtain ⟨wholeEnds, noFraction⟩ := isPower.lacks marked behind
  obtain ⟨isPower, ⟨more, longer⟩⟩ := isPower.more marked behind
  have minusTaken := minusText_minus kind all isFraction some (power ++ behind)
  have fractionTaken : fractionText (fraction ++ (power ++ behind)) = fraction := by
    cases isFraction with
    | none => exact noFraction
    | some isDigits =>
        rw [List.cons_append, fractionText_more isDigits, wholeEnds, List.append_nil]
  have wholeTaken :
      (whole ++ (fraction ++ (power ++ behind))).takeWhile Char.isDigit = whole := by
    rw [List.takeWhile_append_of_pos all]
    cases isFraction with
    | none => simp [wholeEnds]
    | some _ => simp
  rw [numberText_cut minusTaken wholeTaken fractionTaken]
  exact ⟨.parts kind all isFraction some isPower, more, by simp [← longer]⟩

end

theorem numberText_longest {text : List Char} (numeral : NumeralText text) (behind : List Char) :
    NumeralText (numberText (text ++ behind)) ∧ text <+: numberText (text ++ behind) := by
  cases numeral with
  | @parts minus whole fraction power kind all isFraction some isPower =>
      simp only [List.append_assoc]
      by_cases unmarked : power = []
      · subst unmarked
        rw [List.append_nil, List.nil_append]
        cases isFraction with
        | none =>
            rw [List.append_nil, List.nil_append]
            exact numberText_whole kind all (some.resolve_right (absurd rfl)) behind
        | some isDigits => exact numberText_fraction kind all isDigits behind
      · exact numberText_power kind all isFraction some isPower unmarked behind

theorem visible_of_bounds {c : Char} (low : 48 ≤ c.toNat) (high : c.toNat ≤ 122) :
    startsTrivia c = false := by
  have noHash : c ≠ '#' := by
    rintro rfl
    revert low
    decide
  have noSpace : Unicode.isWhiteSpace c = false :=
    isWhiteSpace_of_bounds (by omega) (by omega)
  rw [startsTrivia, noSpace, Bool.or_false]
  exact beq_eq_false_iff_ne.mpr noHash

theorem visible_digit {c : Char} (digit : c.isDigit = true) : startsTrivia c = false := by
  obtain ⟨low, high⟩ := Char.isDigit_iff_toNat.mp digit
  exact visible_of_bounds low (Nat.le_trans high (by decide))

theorem NumeralText.visible {text : List Char} (numeral : NumeralText text) :
    ∀ c ∈ text, startsTrivia c = false := by
  have digits : ∀ {text : List Char}, Digits text → ∀ c ∈ text, startsTrivia c = false :=
    fun all c member => visible_digit (all.2 c member)
  cases numeral with
  | @parts minus whole fraction power kind all isFraction _ isPower =>
      simp only [List.forall_mem_append]
      refine ⟨?_, fun c member => visible_digit (all c member), ?_, ?_⟩
      · rcases kind with rfl | rfl
        · simp
        · simp only [List.forall_mem_singleton]
          decide
      · cases isFraction with
        | none => simp
        | some isDigits => exact List.forall_mem_cons.mpr ⟨by decide, digits isDigits⟩
      · cases isPower with
        | none => simp
        | some isMark kind isDigits =>
            simp only [List.forall_mem_cons, List.forall_mem_append]
            refine ⟨?_, ?_, digits isDigits⟩
            · rcases isMark with rfl | rfl <;> decide
            · rcases kind with rfl | rfl | rfl <;> simp <;> decide

theorem NumeralText.starts {c : Char} {text : List Char} (numeral : NumeralText (c :: text))
    (behind : List Char) : startsNumber c (text ++ behind) = true := by
  generalize same : c :: text = whole at numeral
  cases numeral with
  | @parts minus whole fraction power kind all isFraction some _ =>
      cases whole with
      | nil =>
          cases isFraction with
          | none => simp at some
          | @some digits isDigits =>
              cases digits with
              | nil => exact absurd rfl isDigits.1
              | cons d digits =>
                  have digit := isDigits.2 d List.mem_cons_self
                  rcases kind with rfl | rfl
                  · cases same
                    simp [startsNumber, digit]
                  · cases same
                    simp [startsNumber]
      | cons d digits =>
          have digit := all d List.mem_cons_self
          rcases kind with rfl | rfl
          · cases same
            simp [startsNumber, digit]
          · cases same
            simp [startsNumber, digit]

theorem numeric_plain {c : Char} (numeric : c.isDigit = true ∨ c = '-' ∨ c = '.') :
    startsTrivia c = false ∧ punctuation? c = none ∧ c ≠ '$' ∧ c ≠ '"' := by
  rcases numeric with digit | rfl | rfl
  · have other : ∀ d : Char, d.isDigit = false → c ≠ d := fun _ => digit_ne digit
    refine ⟨visible_digit digit, ?_, other _ rfl, other _ rfl⟩
    unfold punctuation?
    split <;> first | rfl | cases digit
  · exact ⟨by decide, rfl, by decide, by decide⟩
  · exact ⟨by decide, rfl, by decide, by decide⟩

theorem startsNumber_lead {c : Char} {rest : List Char} (starts : startsNumber c rest = true) :
    c.isDigit = true ∨ c = '-' ∨ c = '.' := by
  cases rest with
  | nil =>
      rw [startsNumber, Bool.or_false] at starts
      exact Or.inl starts
  | cons d rest =>
      simp only [startsNumber, Bool.or_eq_true, Bool.and_eq_true, beq_iff_eq] at starts
      exact starts.imp_right fun marked => marked.imp And.left And.left

theorem scan_number {c : Char} {rest : List Char} (starts : startsNumber c rest = true) :
    scan c rest = scanNumber (c :: rest) := by
  obtain ⟨_, noMark, noDollar, noQuote⟩ := numeric_plain (startsNumber_lead starts)
  simp only [scan, noMark, noDollar, noQuote, starts, if_true, if_false]

theorem ofText?_minus {minus power : List Char} (kind : minus = [] ∨ minus = ['-'])
    (isPower : PowerText power) : Number.ofText? (minus ++ power) = none := by
  rcases kind with rfl | rfl
  · cases isPower with
    | none => rfl
    | some isMark _ _ => rcases isMark with rfl | rfl <;> rfl
  · cases isPower with
    | none => rfl
    | some isMark _ _ => rcases isMark with rfl | rfl <;> rfl

theorem numeral_of_ofText? {text : List Char} {x : Float}
    (read : Number.ofText? (numberText text) = some x) : NumeralText (numberText text) := by
  unfold numberText at read ⊢
  dsimp only at read ⊢
  generalize text.drop (minusText text).length = body at read ⊢
  generalize text.drop (minusText text ++ body.takeWhile Char.isDigit).length = tail at read ⊢
  generalize text.drop _ = power at read ⊢
  by_cases some : body.takeWhile Char.isDigit ≠ [] ∨ fractionText tail ≠ []
  · rw [List.append_assoc, List.append_assoc]
    exact .parts (minusText_kind text) (takeWhile_digits body) (fractionText_kind tail) some
      (exponentText_kind power)
  · simp only [ne_eq, not_or, not_not] at some
    rw [some.1, some.2, List.append_nil, List.append_nil,
      ofText?_minus (minusText_kind text) (exponentText_kind power)] at read
    cases read

inductive StringText : List Char → List Char → Prop
  | nil : StringText [] []
  | plain {c used content} : c ≠ '"' → c ≠ '\\' → StringText used content →
      StringText (c :: used) (c :: content)
  | escape {escape c used content} : Escape escape c → StringText used content →
      StringText ('\\' :: (escape ++ used)) (c :: content)

theorem StringText.of_content {used content : List Char} (inner : Json.Content used content) :
    StringText used content := by
  induction inner with
  | nil => exact .nil
  | plain quote backslash _ _ ih => exact .plain quote backslash ih
  | escape meant _ ih => exact .escape meant ih

theorem hexQuad_sound {text : List Char} {code : Nat} (run : hexQuad text = .ok code) :
    ∃ digits behind, text = digits ++ behind ∧ HexQuad digits code := by
  simp only [hexQuad] at run
  split at run
  next four =>
    cases run
    have front := List.takeWhile_prefix Text.isHexDigit (l := text.take 4)
    have whole : (text.take 4).takeWhile Text.isHexDigit = text.take 4 := by
      refine front.eq_of_length_le ?_
      rw [four]
      exact List.length_take_le 4 text
    refine ⟨text.take 4, text.drop 4, (List.take_append_drop 4 text).symm, ?_, ?_, ?_⟩
    · rw [← whole, four]
    · exact fun c member => List.all_eq_true.mp (whole ▸ List.all_takeWhile) c member
    · rw [whole]
  next => cases run

theorem codeEscape_sound {text : List Char} {c : Char} {length : Nat}
    (run : codeEscape text = .ok (c, length)) :
    ∃ used behind, text = used ++ behind ∧ used.length = length ∧ Escape ('u' :: used) c := by
  unfold codeEscape at run
  split at run
  next => cases run
  next code first =>
    obtain ⟨digits, behind, rfl, quad⟩ := hexQuad_sound first
    have rest : (digits ++ behind).drop 4 = behind := by rw [← quad.1, List.drop_left]
    split at run
    next high =>
      split at run
      next pair =>
        rw [rest] at pair
        split at run
        next => cases run
        next low second =>
          split at run
          next isLow =>
            obtain ⟨rfl, rfl⟩ := Prod.mk.inj (Except.ok.inj run)
            have cut : behind = '\\' :: 'u' :: behind.drop 2 := by
              conv_lhs => rw [← List.take_append_drop 2 behind, pair]
              rfl
            have left : (digits ++ behind).drop 6 = behind.drop 2 := by
              conv_rhs => rw [← rest, List.drop_drop]
            rw [left] at second
            obtain ⟨more, others, same, secondQuad⟩ := hexQuad_sound second
            rw [same] at cut
            refine ⟨digits ++ '\\' :: 'u' :: more, others, by rw [cut]; simp, ?_,
              .pair quad high secondQuad isLow⟩
            simp [quad.1, secondQuad.1]
          next => cases run
      next => cases run
    next notHigh =>
      split at run
      next => cases run
      next notLow =>
        cases run
        have whole : Json.isSurrogate code = false := by
          simp [Json.isSurrogate, notHigh, notLow]
        exact ⟨digits, behind, rfl, quad.1, .code quad whole⟩

theorem unescape_sound {mark c : Char} {text : List Char} {length : Nat}
    (run : unescape mark text = .ok (c, length)) :
    ∃ used behind, text = used ++ behind ∧ used.length = length ∧ Escape (mark :: used) c := by
  unfold unescape at run
  split at run
  next code =>
    subst code
    exact codeEscape_sound run
  next =>
    split at run
    next short =>
      cases run
      exact ⟨[], text, rfl, rfl, .short short⟩
    next => cases run

theorem scanString_sound {offset length : Nat} {text content : List Char}
    (run : scanString offset text = .ok (content, length)) :
    ∃ used behind, text = used ++ '"' :: behind ∧ StringText used content ∧
      used.length + 1 = length := by
  fun_induction scanString offset text generalizing content length with
  | case1 => cases run
  | case2 =>
      cases run
      exact ⟨[], _, rfl, .nil, rfl⟩
  | case3 => cases run
  | case4 => cases run
  | case5 offset mark rest c taken meant ih =>
      obtain ⟨⟨inner, more⟩, later, same⟩ := map_eq_ok.mp run
      cases same
      obtain ⟨escape, left, rfl, rfl, isEscape⟩ := unescape_sound meant
      rw [List.drop_left] at later ih
      obtain ⟨used, behind, rfl, isText, rfl⟩ := ih later
      refine ⟨'\\' :: (mark :: escape ++ used), behind, by simp, .escape isEscape isText, ?_⟩
      simp
      omega
  | case6 offset c rest quote ends backslash ih =>
      obtain ⟨⟨inner, more⟩, later, same⟩ := map_eq_ok.mp run
      cases same
      obtain ⟨used, behind, rfl, isText, rfl⟩ := ih later
      have other : c ≠ '\\' := by
        rintro rfl
        cases used with
        | nil => exact backslash _ _ rfl rfl
        | cons mark more => exact backslash _ _ rfl rfl
      exact ⟨c :: used, behind, rfl, .plain quote other isText, rfl⟩

theorem StringText.continues {used content : List Char} (inner : StringText used content)
    (offset : Nat) (rest : List Char) :
    scanString offset (used ++ rest) = (scanString (offset + used.length) rest).map fun found =>
      (content ++ found.1, used.length + found.2) := by
  induction inner generalizing offset with
  | nil => cases run : scanString offset rest <;> simp [run, Except.map]
  | @plain c used content quote backslash _ ih =>
      rw [List.cons_append, scanString, ih]
      · have sum : offset + 1 + used.length = offset + (used.length + 1) := by omega
        rw [List.length_cons, sum]
        cases scanString (offset + (used.length + 1)) rest with
        | error fault => rfl
        | ok found => simp [Except.map, Nat.add_right_comm]
      · exact quote
      · intro same
        exact absurd same backslash
      · intro _ _ same
        exact absurd same backslash
  | @escape escape c used content meant _ ih =>
      obtain ⟨mark, more, rfl⟩ : ∃ mark more, escape = mark :: more := by
        cases meant <;> exact ⟨_, _, rfl⟩
      have read := meant.unescaped (used ++ rest)
      have left : (more ++ (used ++ rest)).drop more.length = used ++ rest := List.drop_left
      have size : ('\\' :: mark :: (more ++ used)).length = 2 + more.length + used.length := by
        simp
        omega
      have sum : offset + 2 + more.length + used.length =
          offset + (2 + more.length + used.length) := by omega
      simp only [List.cons_append, List.append_assoc]
      rw [scanString, read, size]
      simp only [left, ih, sum]
      cases scanString (offset + (2 + more.length + used.length)) rest with
      | error fault => rfl
      | ok found => simp [Except.map, Nat.add_assoc]

theorem StringText.scanned {used content : List Char} (inner : StringText used content)
    (offset : Nat) (behind : List Char) :
    scanString offset (used ++ '"' :: behind) = .ok (content, used.length + 1) := by
  rw [inner.continues, scanString]
  simp [Except.map]

theorem scan_quote (rest : List Char) : scan '"' rest = (scanString 1 rest).map fun found =>
    (.string (String.ofList found.1), found.2) := by
  simp [scan, punctuation?]

theorem StringText.scan {used content : List Char} (inner : StringText used content)
    (behind : List Char) : Source.scan '"' (used ++ '"' :: behind) =
      .ok (.string (String.ofList content), used.length + 1) := by
  rw [scan_quote, inner.scanned]
  rfl

end Stencil.Source
