import Mathlib
import Stencil.Proofs.Number.Bits
import Stencil.Proofs.Number.Reading
import Stencil.Proofs.Positions

/-! Numbers of a template. A call of the scanner takes the longest number there is, and gives what
the number means. -/

namespace Stencil

namespace Number

theorem Numeral.magnitude_le (numeral : Numeral) : numeral.magnitude ≤ infinityBits := by
  unfold magnitude
  split
  · exact Nat.zero_le _
  · split <;> split
    · exact Nat.le_refl _
    · exact Nat.min_le_left _ _
    · exact Nat.zero_le _
    · exact Nat.min_le_left _ _

theorem Numeral.finite_or_infinite (numeral : Numeral) :
    numeral.toFloat.isFinite = true ∨ numeral.toFloat.isInf = true := by
  have bound := numeral.magnitude_le
  rcases Nat.lt_or_eq_of_le bound with small | large
  · left
    rw [isFinite_iff, toFloat, magnitudeBits_ofMagnitude bound]
    exact small
  · right
    rw [toFloat, large]
    cases numeral.negative <;> decide +kernel

end Number

namespace Source

open Json (Lacks)
open Number (Means Numeral PowerMeans)

theorem PowerText.means {power : List Char} (isPower : PowerText power) :
    ∃ exponent, PowerMeans power exponent := by
  cases isPower with
  | none => exact ⟨0, .none⟩
  | some isMark kind all =>
      rcases kind with rfl | rfl | rfl
      · exact ⟨_, .up isMark (Or.inl rfl) all⟩
      · exact ⟨_, .up isMark (Or.inr rfl) all⟩
      · exact ⟨_, .down isMark all⟩

theorem NumeralText.means {text : List Char} (isNumeral : NumeralText text) :
    ∃ numeral, Means text numeral := by
  cases isNumeral with
  | parts kind all isFraction some isPower =>
      obtain ⟨exponent, means⟩ := isPower.means
      exact ⟨_, .parts kind all isFraction some means⟩

theorem NumeralText.ne_nil {text : List Char} (isNumeral : NumeralText text) : text ≠ [] := by
  rintro rfl
  obtain ⟨_, means⟩ := isNumeral.means
  cases means.read

structure LongestNumeral (text literal : List Char) : Prop where
  front : literal <+: text
  numeral : NumeralText literal
  longest : ∀ other, other <+: text → NumeralText other → other.length ≤ literal.length

/-- A minus sign and a point, but no digit behind it. -/
def BareMinus (text : List Char) : Prop :=
  ∃ rest, text = '-' :: '.' :: rest ∧ Lacks Char.isDigit rest

theorem longest_of_front {text literal : List Char} (numeral : NumeralText literal)
    (front : literal <+: text) : LongestNumeral text (numberText text) := by
  obtain ⟨behind, rfl⟩ := front
  refine ⟨numberText_front _, (numberText_longest numeral behind).1, ?_⟩
  rintro other ⟨rest, same⟩ otherNumeral
  rw [← same]
  exact (numberText_longest otherNumeral rest).2.length_le

theorem LongestNumeral.taken {text literal : List Char} (longest : LongestNumeral text literal) :
    numberText text = literal := by
  have most := longest_of_front longest.numeral longest.front
  have shorter := longest.longest _ most.front most.numeral
  have front := List.prefix_of_prefix_length_le most.front longest.front shorter
  exact front.eq_of_length_le (most.longest literal longest.front longest.numeral)

theorem BareMinus.taken {text : List Char} (bare : BareMinus text) : numberText text = ['-'] := by
  obtain ⟨rest, rfl, lacks⟩ := bare
  cases rest with
  | nil => rfl
  | cons d rest =>
      have noDigit : d.isDigit = false := lacks d rfl
      simp [numberText, minusText, fractionText, exponentText, noDigit]

theorem BareMinus.no_numeral {text literal : List Char} (bare : BareMinus text)
    (front : literal <+: text) : ¬NumeralText literal := by
  intro numeral
  have most := (longest_of_front numeral front).numeral
  rw [bare.taken] at most
  obtain ⟨_, means⟩ := most.means
  cases means.read

theorem numeral_digit {minus : List Char} (kind : minus = [] ∨ minus = ['-']) {d : Char}
    (digit : d.isDigit = true) : NumeralText (minus ++ [d]) ∧ NumeralText (minus ++ ['.', d]) := by
  have all : ∀ c ∈ [d], c.isDigit = true := List.forall_mem_singleton.mpr digit
  have some : [d] ≠ [] := List.cons_ne_nil d []
  exact ⟨.parts kind all .none (Or.inl some) .none,
    .parts kind (List.forall_mem_nil _) (.some ⟨some, all⟩) (Or.inr (List.cons_ne_nil _ _)) .none⟩

theorem startsNumber_iff (c : Char) (rest : List Char) : startsNumber c rest = true ↔
    (∃ literal, LongestNumeral (c :: rest) literal) ∨ BareMinus (c :: rest) := by
  have found : ∀ literal behind, c :: rest = literal ++ behind → NumeralText literal →
      (∃ literal, LongestNumeral (c :: rest) literal) ∨ BareMinus (c :: rest) :=
    fun literal behind cut numeral =>
      Or.inl ⟨_, longest_of_front numeral ⟨behind, cut.symm⟩⟩
  constructor
  · intro starts
    cases rest with
    | nil =>
        rw [startsNumber, Bool.or_false] at starts
        exact found [c] [] rfl (numeral_digit (Or.inl rfl) starts).1
    | cons d rest =>
        simp only [startsNumber, Bool.or_eq_true, Bool.and_eq_true, beq_iff_eq] at starts
        rcases starts with digit | ⟨rfl, digit | rfl⟩ | ⟨rfl, digit⟩
        · exact found [c] (d :: rest) rfl (numeral_digit (Or.inl rfl) digit).1
        · exact found ['-', d] rest rfl (numeral_digit (Or.inr rfl) digit).1
        · by_cases bare : Lacks Char.isDigit rest
          · exact Or.inr ⟨rest, rfl, bare⟩
          · obtain ⟨e, more, rfl, digit⟩ : ∃ e more, rest = e :: more ∧ e.isDigit = true := by
              cases rest with
              | nil => simp [Lacks] at bare
              | cons e more => exact ⟨e, more, rfl, by simpa [Lacks] using bare⟩
            exact found ['-', '.', e] more rfl (numeral_digit (Or.inr rfl) digit).2
        · exact found ['.', d] rest rfl (numeral_digit (Or.inl rfl) digit).2
  · rintro (⟨literal, longest⟩ | ⟨more, same, _⟩)
    · obtain ⟨behind, cut⟩ := longest.front
      cases literal with
      | nil => exact absurd rfl longest.numeral.ne_nil
      | cons d used =>
          obtain ⟨rfl, rfl⟩ := List.cons.inj cut
          exact longest.numeral.starts behind
    · cases same
      rfl

theorem scanNumber_numeral {text literal : List Char} {numeral : Numeral}
    (longest : LongestNumeral text literal) (means : Means literal numeral) :
    scanNumber text =
      if numeral.toFloat.isFinite then .ok (.number numeral.toFloat, literal.length - 1)
      else .error ⟨.invalidNumber (String.ofList literal), 0⟩ := by
  simp only [scanNumber, longest.taken, means.read]

theorem scanNumber_bare {text : List Char} (bare : BareMinus text) :
    scanNumber text = .error ⟨.invalidNumber "-", 0⟩ := by
  simp only [scanNumber, bare.taken]
  rfl

namespace Cursor

/-- What a call comes to at a number: its token, a complaint that its value is too large, or one
that there is none behind a minus sign. -/
inductive ReadsNumber (start : Position) (text : List Char) :
    Except LexError (Option Lexeme × Cursor) → Prop
  | token {literal behind numeral} : text = literal ++ behind → LongestNumeral text literal →
      Means literal numeral → numeral.toFloat.isFinite = true →
      ReadsNumber start text
        (.ok (some ⟨.number numeral.toFloat, literal, start⟩, ⟨start.after literal, behind⟩))
  | tooLarge {literal numeral} : LongestNumeral text literal → Means literal numeral →
      numeral.toFloat.isInf = true →
      ReadsNumber start text (.error ⟨.invalidNumber (String.ofList literal), start⟩)
  | bare : BareMinus text → (∀ literal, literal <+: text → ¬NumeralText literal) →
      ReadsNumber start text (.error ⟨.invalidNumber "-", start⟩)

variable {cursor : Cursor}

theorem next_behind {gap : List Char} {c : Char} {rest : List Char}
    (cut : cursor.unread = gap ++ c :: rest) (trivia : Trivia (c :: rest) gap)
    (visible : startsTrivia c = false) :
    let start := cursor.position.after gap
    cursor.next = match scan c rest with
      | .error fault => .error ⟨fault.cause, start.after ((c :: rest).take fault.offset)⟩
      | .ok (token, length) => .ok (some ⟨token, c :: rest.take length, start⟩,
          ⟨start.after (c :: rest.take length), rest.drop length⟩) := by
  have length : triviaLength false cursor.unread = gap.length := by
    rw [cut, trivia.length, triviaLength_cons_visible rest visible, Nat.add_zero]
  have front : cursor.unread.take gap.length = gap := by rw [cut, List.take_left]
  have back : cursor.unread.drop gap.length = c :: rest := by rw [cut, List.drop_left]
  unfold next
  rw [length]
  dsimp only
  rw [front]
  generalize cursor.unread.drop gap.length = text at back ⊢
  subst back
  rfl

theorem next_number {gap : List Char} {c : Char} {rest : List Char}
    (cut : cursor.unread = gap ++ c :: rest) (trivia : Trivia (c :: rest) gap)
    (starts : startsNumber c rest = true) :
    ReadsNumber (cursor.position.after gap) (c :: rest) cursor.next := by
  have visible := (numeric_plain (startsNumber_lead starts)).1
  rw [next_behind cut trivia visible, scan_number starts]
  rcases (startsNumber_iff c rest).mp starts with ⟨literal, longest⟩ | bare
  · obtain ⟨numeral, means⟩ := longest.numeral.means
    obtain ⟨behind, front⟩ := longest.front
    rw [scanNumber_numeral longest means]
    cases literal with
    | nil => exact absurd rfl longest.numeral.ne_nil
    | cons d used =>
        rw [List.cons_append] at front
        obtain ⟨rfl, rfl⟩ := List.cons.inj front
        by_cases finite : numeral.toFloat.isFinite = true
        · rw [if_pos finite]
          simp only [List.length_cons, Nat.add_sub_cancel, List.take_left, List.drop_left]
          exact .token rfl longest means finite
        · rw [if_neg finite]
          exact .tooLarge longest means (numeral.finite_or_infinite.resolve_left finite)
  · rw [scanNumber_bare bare]
    exact .bare bare fun literal front => bare.no_numeral front

inductive Numeric : Except LexError (Option Lexeme × Cursor) → Prop
  | token {lexeme behind x} : lexeme.token = .number x → Numeric (.ok (some lexeme, behind))
  | failed {text place} : Numeric (.error ⟨.invalidNumber text, place⟩)

theorem ReadsNumber.numeric {start : Position} {text : List Char}
    {outcome : Except LexError (Option Lexeme × Cursor)} (reads : ReadsNumber start text outcome) :
    Numeric outcome := by
  cases reads with
  | token _ _ _ _ => exact .token rfl
  | tooLarge _ _ _ => exact .failed
  | bare _ _ => exact .failed

end Cursor

theorem scanString_cause {offset : Nat} {text : List Char} {fault : Fault}
    (failed : scanString offset text = .error fault) (literal : String) :
    fault.cause ≠ .invalidNumber literal := by
  fun_induction scanString offset text generalizing fault with
  | case1 => cases failed; simp
  | case2 => cases failed
  | case3 => cases failed; simp
  | case4 => cases failed; simp
  | case5 offset mark rest c taken meant ih => exact ih (map_eq_error.mp failed)
  | case6 offset c rest quote ends backslash ih => exact ih (map_eq_error.mp failed)

theorem scan_cause {c : Char} {rest : List Char} {fault : Fault} {literal : String}
    (failed : scan c rest = .error fault) (cause : fault.cause = .invalidNumber literal) :
    startsNumber c rest = true := by
  unfold scan at failed
  split at failed
  next => cases failed
  next =>
    split at failed
    next =>
      unfold scanQuery at failed
      split at failed <;> cases failed
      cases cause
    next =>
      split at failed
      next => exact absurd cause (scanString_cause (map_eq_error.mp failed) literal)
      next =>
        split at failed
        next starts => exact starts
        next =>
          split at failed <;> cases failed
          cases cause

theorem scan_number_starts {c : Char} {rest : List Char} {x : Float} {length : Nat}
    (scanned : scan c rest = .ok (.number x, length)) : startsNumber c rest = true := by
  generalize same : Token.number x = token at scanned
  cases scan_scanned scanned with
  | mark found =>
      unfold punctuation? at found
      split at found <;> cases found <;> cases same
  | query _ run =>
      rw [scanQuery_eq_ok run] at same
      cases same
  | string _ _ => cases same
  | number starts _ => exact starts
  | name =>
      rw [scanName_text] at same
      unfold keyword at same
      split_ifs at same

theorem Cursor.Numeric.starts {cursor : Cursor} (numeric : Numeric cursor.next) :
    ∃ gap c rest, cursor.unread = gap ++ c :: rest ∧ Trivia (c :: rest) gap ∧
      startsNumber c rest = true := by
  generalize same : cursor.next = outcome at numeric
  cases numeric with
  | token number =>
      cases looks_of_next same with
      | @token gap c rest _ _ cut trivia _ scanned =>
          change _ = Token.number _ at number
          subst number
          exact ⟨gap, c, rest, cut, trivia, scan_number_starts scanned⟩
  | failed =>
      generalize complaint : Except.error _ = outcome at same
      cases looks_of_next same with
      | finished => cases complaint
      | token _ _ _ _ => cases complaint
      | @failed gap c rest fault cut trivia _ scanned =>
          have cause := congrArg LexError.cause (Except.error.inj complaint)
          exact ⟨gap, c, rest, cut, trivia, scan_cause scanned cause.symm⟩

namespace Cursor

variable {source : List Char} {cursor : Cursor}

theorem Reached.drop (reached : Reached source cursor) {gap text : List Char}
    (cut : cursor.unread = gap ++ text) :
    source.drop (cursor.position.after gap).offset = text := by
  obtain ⟨before, whole, position⟩ := reached.cut
  have offset : (cursor.position.after gap).offset = (before ++ gap).length := by
    rw [position, ← Position.after_append, Position.offset_after]
    exact Nat.zero_add _
  rw [whole, cut, offset, ← List.append_assoc, List.drop_left]

theorem Reached.reads_number (reached : Reached source cursor) (numeric : Numeric cursor.next) :
    ∃ start : Position, ReadsNumber start (source.drop start.offset) cursor.next := by
  obtain ⟨gap, c, rest, cut, trivia, starts⟩ := numeric.starts
  refine ⟨cursor.position.after gap, ?_⟩
  rw [reached.drop cut]
  exact next_number cut trivia starts

end Cursor

/-- Every number of a source is the longest one at its place, and the token has its value. A
complaint names the longest number too, unless there is none. -/
structure Lexed.Maximal (source : List Char) (lexed : Lexed) : Prop where
  tokens : ∀ lexeme ∈ lexed.lexemes, ∀ x, lexeme.token = .number x →
    LongestNumeral (source.drop lexeme.start.offset) lexeme.text ∧
      ∃ numeral, Means lexeme.text numeral ∧ x = numeral.toFloat ∧ x.isFinite = true
  complaint : ∀ text place, lexed.ending = .error ⟨.invalidNumber text, place⟩ →
    (LongestNumeral (source.drop place.offset) text.toList ∧
      ∃ numeral, Means text.toList numeral ∧ numeral.toFloat.isInf = true) ∨
    (BareMinus (source.drop place.offset) ∧ text = "-")

theorem lexFrom_maximal {source : List Char} (cursor : Cursor) : Cursor.Reached source cursor →
    (lexFrom cursor.position cursor.unread).Maximal source := by
  refine Cursor.lexFrom_induction (fun cursor lexed => Cursor.Reached source cursor →
    lexed.Maximal source) ?_ ?_ ?_ cursor
  · intro cursor behind next reached
    exact ⟨List.forall_mem_nil _, nofun⟩
  · intro cursor error next reached
    refine ⟨List.forall_mem_nil _, ?_⟩
    intro text place same
    cases same
    obtain ⟨start, reads⟩ := reached.reads_number (next ▸ .failed)
    rw [next] at reads
    cases reads with
    | tooLarge longest means infinite =>
        rw [String.toList_ofList]
        exact Or.inl ⟨longest, _, means, infinite⟩
    | bare bare _ => exact Or.inr ⟨bare, rfl⟩
  · intro cursor lexeme behind later next maximal reached
    obtain ⟨tokens, complaint⟩ := maximal (reached.next next)
    refine ⟨List.forall_mem_cons.mpr ⟨?_, tokens⟩, complaint⟩
    intro x number
    obtain ⟨start, reads⟩ := reached.reads_number (next ▸ .token number)
    rw [next] at reads
    cases reads with
    | token _ longest means finite =>
        cases number
        exact ⟨longest, _, means, rfl, finite⟩

/-- Number tokens are maximal. A number starts where there is one, and where a minus sign and a
point are not followed by a digit. There a call takes the longest number and gives the value that it
means, or complains about it because it is too large; it complains about the minus sign where there
is no number. No other call gives a number or complains about one, so this holds of every number in
a source. -/
theorem numbers_maximal :
    (∀ c rest, startsNumber c rest = true ↔
      (∃ literal, LongestNumeral (c :: rest) literal) ∨ BareMinus (c :: rest)) ∧
    (∀ (cursor : Cursor) gap c rest, cursor.unread = gap ++ c :: rest → Trivia (c :: rest) gap →
      startsNumber c rest = true →
        Cursor.ReadsNumber (cursor.position.after gap) (c :: rest) cursor.next) ∧
    (∀ cursor : Cursor, Cursor.Numeric cursor.next ↔ ∃ gap c rest,
      cursor.unread = gap ++ c :: rest ∧ Trivia (c :: rest) gap ∧ startsNumber c rest = true) ∧
    ∀ source, (lex source).Maximal source.toList := by
  refine ⟨startsNumber_iff, fun _ _ _ _ => Cursor.next_number, ?_, ?_⟩
  · intro cursor
    refine ⟨Cursor.Numeric.starts, ?_⟩
    rintro ⟨gap, c, rest, cut, trivia, starts⟩
    exact (Cursor.next_number cut trivia starts).numeric
  · intro source
    exact lexFrom_maximal ⟨.start, source.toList⟩ .start

theorem numbers_maximal_power :
    let cursor : Cursor := ⟨.start, " -.5e+x".toList⟩
    cursor.unread = [' '] ++ '-' :: ".5e+x".toList ∧ Trivia ('-' :: ".5e+x".toList) [' '] ∧
    startsNumber '-' ".5e+x".toList = true ∧
    ∃ behind, cursor.next =
      .ok (some ⟨.number (-0.5), "-.5".toList, ⟨1, 2, 1⟩⟩, behind) := by
  intro cursor
  have trivia : Trivia ('-' :: ".5e+x".toList) [' '] := .space (by decide +kernel) .nil
  have reads := numbers_maximal.2.1 cursor [' '] '-' ".5e+x".toList rfl trivia rfl
  have taken : numberText "-.5e+x".toList = "-.5".toList := by decide
  have value : Number.ofText? "-.5".toList = some (-0.5) := by decide +kernel
  refine ⟨rfl, trivia, rfl, ?_⟩
  generalize cursor.next = outcome at reads
  cases reads with
  | token cut longest means finite =>
      obtain rfl := longest.taken.symm.trans taken
      have same := Option.some.inj (means.read.symm.trans value)
      rw [same]
      exact ⟨_, rfl⟩
  | tooLarge longest means infinite =>
      obtain rfl := longest.taken.symm.trans taken
      have same := Option.some.inj (means.read.symm.trans value)
      rw [same] at infinite
      exact absurd infinite (by decide +kernel)
  | bare bare _ =>
      obtain ⟨rest, same, lacks⟩ := bare
      cases same
      cases lacks '5' rfl

end Source

end Stencil
