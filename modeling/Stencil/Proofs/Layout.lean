import Mathlib
import Stencil.Proofs.Literals
import Stencil.Proofs.Query.Extent

/-! White space and comments between tokens. A token stays the same when white space or a comment
comes to stand behind it, so it does not matter how the gaps between tokens are filled. -/

namespace Stencil.Source

open Json (Lacks takeWhile_lacks)

/-- One text goes on like another up to white space, a comment or its end. -/
def Interrupts (other behind : List Char) : Prop :=
  ∃ shared rest gap, behind = shared ++ rest ∧ other = shared ++ gap ∧
    ∀ c ∈ gap.head?, startsTrivia c = true

theorem Interrupts.refl (text : List Char) : Interrupts text text :=
  ⟨text, [], [], by simp, by simp, by simp⟩

theorem Interrupts.behind {other behind : List Char} (shared : List Char)
    (interrupts : Interrupts other behind) : Interrupts (shared ++ other) (shared ++ behind) := by
  obtain ⟨more, rest, gap, rfl, rfl, starts⟩ := interrupts
  exact ⟨shared ++ more, rest, gap, by simp, by simp, starts⟩

theorem Interrupts.lacks {p : Char → Bool} {other behind : List Char}
    (interrupts : Interrupts other behind) (visible : ∀ c, p c = true → startsTrivia c = false)
    (ends : Lacks p behind) : Lacks p other := by
  obtain ⟨shared, rest, gap, rfl, rfl, starts⟩ := interrupts
  cases shared with
  | nil =>
      intro c head
      cases holds : p c with
      | false => rfl
      | true => exact (starts c head).symm.trans (visible c holds)
  | cons d more => exact ends

theorem Interrupts.front {text other behind : List Char} (interrupts : Interrupts other behind)
    (visible : ∀ c ∈ text, startsTrivia c = false) (front : text <+: other) : text <+: behind := by
  obtain ⟨shared, rest, gap, rfl, rfl, starts⟩ := interrupts
  rcases List.prefix_or_prefix_of_prefix front (List.prefix_append shared gap) with short | long
  · exact short.trans (List.prefix_append shared rest)
  · obtain ⟨more, rfl⟩ := long
    cases more with
    | nil => simp
    | cons c more =>
        obtain ⟨last, same⟩ := (List.prefix_append_right_inj shared).mp front
        have seen := visible c (by simp)
        rw [starts c (by rw [← same]; rfl)] at seen
        cases seen

theorem visible_nameCharacter {c : Char} (word : isNameCharacter c = true) :
    startsTrivia c = false := by
  rcases Bool.or_eq_true _ _ |>.mp word with alphanumeric | underscore
  · rcases Bool.or_eq_true _ _ |>.mp alphanumeric with letter | digit
    · rcases Bool.or_eq_true _ _ |>.mp letter with upper | lower
      · simp only [Char.isUpper, decide_eq_true_eq] at upper
        exact visible_of_bounds (Nat.le_trans (by decide) (UInt32.le_iff_toNat_le.mp upper.1))
          (Nat.le_trans (UInt32.le_iff_toNat_le.mp upper.2) (by decide))
      · simp only [Char.isLower, Bool.and_eq_true, decide_eq_true_eq] at lower
        exact visible_of_bounds (Nat.le_trans (by decide) (UInt32.le_iff_toNat_le.mp lower.1))
          (UInt32.le_iff_toNat_le.mp lower.2)
    · exact visible_digit digit
  · rw [beq_iff_eq.mp underscore]
    decide

theorem scanQuery_steady {text : List Char} {token : Token} {length : Nat}
    (scanned : scanQuery text = .ok (token, length)) :
    ∃ used behind, text = used ++ behind ∧ used.length = length ∧
      ∀ other, Interrupts other behind → scanQuery (used ++ other) = .ok (token, length) := by
  unfold scanQuery at scanned
  split at scanned
  next found =>
    cases scanned
    obtain ⟨used, behind, rfl, rfl, passes, ends⟩ := Query.passes_taken found
    refine ⟨used, behind, rfl, rfl, fun other interrupts => ?_⟩
    have ends : Query.EndsQuery other := by
      intro c head
      have lacks := interrupts.lacks (p := fun c => c == '.' || c == '*' || c == '[' ||
        isNameCharacter c) ?_ ?_ c head
      · simpa [and_assoc] using lacks
      · intro d marks
        simp only [Bool.or_eq_true, beq_iff_eq] at marks
        rcases marks with ((rfl | rfl) | rfl) | word
        · decide
        · decide
        · decide
        · exact visible_nameCharacter word
      · intro d first
        simpa [and_assoc] using ends d first
    have length := passes.queryLength_append other
    rw [ends.queryLength, Option.map_some, Nat.zero_add] at length
    simp only [scanQuery, length, List.take_left]
  next => cases scanned

theorem scanString_steady {text content : List Char} {length : Nat}
    (scanned : scanString 1 text = .ok (content, length)) :
    ∃ used behind, text = used ++ behind ∧ used.length = length ∧
      ∀ other, scanString 1 (used ++ other) = .ok (content, length) := by
  obtain ⟨used, behind, rfl, isText, rfl⟩ := scanString_sound scanned
  refine ⟨used ++ ['"'], behind, by simp, by simp, fun other => ?_⟩
  rw [List.append_assoc, List.singleton_append]
  exact isText.scanned 1 other

theorem numberText_steady {used behind other : List Char}
    (taken : numberText (used ++ behind) = used) (numeral : NumeralText used)
    (interrupts : Interrupts other behind) : numberText (used ++ other) = used := by
  obtain ⟨isNumeral, ⟨more, longer⟩⟩ := numberText_longest numeral other
  rw [← longer] at isNumeral
  have front : used ++ more <+: used ++ other := longer ▸ numberText_front (used ++ other)
  have seen := fun c member => isNumeral.visible c (List.mem_append_right used member)
  obtain ⟨rest, rfl⟩ :=
    interrupts.front seen ((List.prefix_append_right_inj used).mp front)
  have most := (numberText_longest isNumeral rest).2
  rw [List.append_assoc, taken] at most
  have nothing := most.length_le
  rw [List.length_append] at nothing
  rw [← longer, List.length_eq_zero_iff.mp (by omega : more.length = 0), List.append_nil]

theorem scanNumber_steady {c : Char} {text : List Char} {token : Token} {length : Nat}
    (scanned : scanNumber (c :: text) = .ok (token, length)) :
    ∃ used behind, text = used ++ behind ∧ used.length = length ∧
      ∀ other, Interrupts other behind → startsNumber c (used ++ other) = true ∧
        scanNumber (c :: (used ++ other)) = .ok (token, length) := by
  simp only [scanNumber] at scanned
  split at scanned
  next => cases scanned
  next x read =>
    split at scanned
    next finite =>
      have numeral := numeral_of_ofText? read
      obtain ⟨behind, front⟩ := numberText_front (c :: text)
      cases taken : numberText (c :: text) with
      | nil =>
          rw [taken] at read
          cases read
      | cons d used =>
          rw [taken] at scanned front numeral read
          cases scanned
          obtain ⟨rfl, rfl⟩ := List.cons.inj front
          refine ⟨used, behind, rfl, rfl, fun other interrupts => ⟨numeral.starts other, ?_⟩⟩
          have same := numberText_steady taken numeral interrupts
          rw [List.cons_append] at same
          simp only [scanNumber, same, read, finite]
          rfl
    next => cases scanned

theorem scanName_steady (c : Char) (text : List Char) :
    ∃ used behind, text = used ++ behind ∧ used.length = (scanName c text).2 ∧
      ∀ other, Interrupts other behind → scanName c (used ++ other) = scanName c text := by
  refine ⟨text.takeWhile isNameCharacter, text.dropWhile isNameCharacter,
    List.takeWhile_append_dropWhile.symm, rfl, fun other interrupts => ?_⟩
  have all : ∀ d ∈ text.takeWhile isNameCharacter, isNameCharacter d = true :=
    List.all_eq_true.mp List.all_takeWhile
  have ends : Lacks isNameCharacter (text.dropWhile isNameCharacter) := by
    intro d head
    have stop := List.head?_dropWhile_not isNameCharacter text
    rw [head] at stop
    exact stop
  have taken := takeWhile_lacks all (interrupts.lacks (fun _ => visible_nameCharacter) ends)
  simp only [scanName, taken]

theorem startsNumber_name {c : Char} (word : isNameStart c = true) (noDigit : c.isDigit = false)
    (text : List Char) : startsNumber c text = false := by
  have other : ∀ d : Char, isNameStart d = false → c ≠ d := by
    rintro d noName rfl
    rw [word] at noName
    cases noName
  cases text with
  | nil => simp [startsNumber, noDigit]
  | cons d rest => simp [startsNumber, noDigit, other '-' rfl, other '.' rfl]

/-- A token is scanned in the same way in front of any text that goes on alike or is interrupted. -/
theorem scan_steady {c : Char} {text : List Char} {token : Token} {length : Nat}
    (scanned : scan c text = .ok (token, length)) :
    ∃ used behind, text = used ++ behind ∧ used.length = length ∧
      ∀ other, Interrupts other behind → scan c (used ++ other) = .ok (token, length) := by
  unfold scan at scanned ⊢
  split at scanned
  next mark found =>
    cases scanned
    exact ⟨[], text, rfl, rfl, fun _ _ => rfl⟩
  next noMark =>
    split at scanned
    next dollar =>
      obtain ⟨used, behind, cut, taken, steady⟩ := scanQuery_steady scanned
      exact ⟨used, behind, cut, taken, fun other interrupts => by
        simp only [dollar, if_true, steady other interrupts]⟩
    next noDollar =>
      split at scanned
      next quote =>
        obtain ⟨⟨content, length⟩, run, same⟩ := map_eq_ok.mp scanned
        cases same
        obtain ⟨used, behind, cut, taken, steady⟩ := scanString_steady run
        refine ⟨used, behind, cut, taken, fun other _ => ?_⟩
        simp only [quote, if_true, steady other]
        rfl
      next noQuote =>
        split at scanned
        next =>
          obtain ⟨used, behind, cut, taken, steady⟩ := scanNumber_steady scanned
          refine ⟨used, behind, cut, taken, fun other interrupts => ?_⟩
          obtain ⟨starts, run⟩ := steady other interrupts
          simp only [noDollar, noQuote, if_false, starts, if_true, run]
        next noNumber =>
          split at scanned
          next word =>
            cases scanned
            obtain ⟨used, behind, cut, taken, steady⟩ := scanName_steady c text
            refine ⟨used, behind, cut, taken, fun other interrupts => ?_⟩
            have noDigit : c.isDigit = false := by
              cases digit : c.isDigit with
              | false => rfl
              | true => simp [startsNumber, digit] at noNumber
            simp only [noDollar, noQuote, if_false, startsNumber_name word noDigit, word, if_true,
              steady other interrupts]
            rfl
          next => cases scanned

inductive Filler : List Char → Prop
  | nil : Filler []
  | space {c gap} : Unicode.isWhiteSpace c = true → Filler gap → Filler (c :: gap)
  | comment {body gap} : '\n' ∉ body → Filler gap → Filler ('#' :: (body ++ '\n' :: gap))

theorem Filler.trivia {filler : List Char} (isFiller : Filler filler) (behind : List Char) :
    Trivia behind filler := by
  induction isFiller with
  | nil => exact .nil
  | space space _ ih => exact .space space ih
  | comment inLine _ ih =>
      exact .comment inLine (by simp) (.space Unicode.isWhiteSpace_newline ih)

theorem Trivia.starts {gap behind : List Char} (trivia : Trivia behind gap) :
    ∀ c ∈ gap.head?, startsTrivia c = true := by
  intro c head
  cases trivia with
  | nil => cases head
  | space space _ =>
      cases head
      simp [startsTrivia, space]
  | comment _ _ _ =>
      cases head
      rfl

theorem Trivia.before {gap behind other : List Char} (trivia : Trivia behind gap)
    (same : other.head? = behind.head?) : Trivia other gap := by
  induction trivia with
  | nil => exact .nil
  | space space _ ih => exact .space space ih
  | @comment body gap inLine ends _ ih =>
      refine .comment inLine ?_ ih
      rwa [List.head?_append, same, ← List.head?_append]

theorem Trivia.filler {gap behind : List Char} (trivia : Trivia behind gap)
    (visible : ∃ c rest, behind = c :: rest ∧ startsTrivia c = false) : Filler gap := by
  have noNewline : ∃ c rest, behind = c :: rest ∧ c ≠ '\n' := by
    obtain ⟨c, rest, cut, seen⟩ := visible
    refine ⟨c, rest, cut, ?_⟩
    rintro rfl
    exact absurd seen (by decide)
  induction trivia with
  | nil => exact .nil
  | space space _ ih => exact .space space ih
  | @comment body gap inLine ends _ ih =>
      obtain ⟨c, rest, rfl, other⟩ := noNewline
      cases ih with
      | nil => exact absurd (ends c rfl) other
      | space _ later =>
          cases ends _ rfl
          exact .comment inLine later
      | comment _ _ => cases ends _ rfl

theorem triviaLength_body {body behind : List Char} (inLine : '\n' ∉ body)
    (ends : ∀ c, behind.head? = some c → c = '\n') :
    triviaLength true (body ++ behind) = body.length + triviaLength false behind := by
  induction body with
  | nil =>
      cases behind with
      | nil => rfl
      | cons c rest =>
          cases ends c rfl
          simp [triviaLength, Unicode.isWhiteSpace_newline]
  | cons c body ih =>
      simp only [List.mem_cons, not_or] at inLine
      rw [List.cons_append, triviaLength_comment _ (Ne.symm inLine.1), ih inLine.2,
        List.length_cons]
      omega

theorem Trivia.length {gap behind : List Char} (trivia : Trivia behind gap) :
    triviaLength false (gap ++ behind) = gap.length + triviaLength false behind := by
  induction trivia with
  | nil => simp
  | @space c gap space _ ih =>
      by_cases hash : c = '#'
      · subst hash
        cases space
      · rw [List.cons_append, triviaLength_space _ hash space, ih, List.length_cons]
        omega
  | @comment body gap inLine ends _ ih =>
      rw [List.cons_append, List.append_assoc, triviaLength_hash, triviaLength_body inLine ends,
        ih, List.length_cons, List.length_append]
      omega

theorem lexFrom_gap {gap behind : List Char} (position : Position) (trivia : Trivia behind gap) :
    lexFrom position (gap ++ behind) = lexFrom (position.after gap) behind := by
  rw [lexFrom_eq, lexFrom_eq, trivia.length, List.take_length_add_append,
    List.drop_length_add_append, Position.after_append]

theorem triviaLength_visible (text : List Char) :
    (∀ c ∈ (text.drop (triviaLength false text)).head?, startsTrivia c = false) ∧
    ∀ c ∈ (text.drop (triviaLength true text)).head?, startsTrivia c = false := by
  induction text with
  | nil => simp
  | cons d rest ih =>
      constructor
      · by_cases hash : d = '#'
        · subst hash
          rw [triviaLength_hash, List.drop_succ_cons]
          exact ih.2
        · by_cases space : Unicode.isWhiteSpace d = true
          · rw [triviaLength_space rest hash space, List.drop_succ_cons]
            exact ih.1
          · have nothing : triviaLength false (d :: rest) = 0 := by
              simp [triviaLength, hash, space]
            rw [nothing]
            simp [startsTrivia, hash, space]
      · by_cases newline : d = '\n'
        · subst newline
          exact ih.1
        · rw [triviaLength_comment rest newline, List.drop_succ_cons]
          exact ih.2

theorem lexFrom_first {position : Position} {source : List Char} {lexeme : Lexeme}
    {later : List Lexeme} {ending : Except LexError Position}
    (run : lexFrom position source = ⟨lexeme :: later, ending⟩) :
    ∃ gap rest, source = gap ++ (lexeme.text ++ rest) ∧ Trivia (lexeme.text ++ rest) gap ∧
      (∃ c more, lexeme.text = c :: more ∧ startsTrivia c = false) ∧
      lexeme.start = position.after gap ∧
      lexFrom (lexeme.start.after lexeme.text) rest = ⟨later, ending⟩ ∧
      ∀ other, Interrupts other rest → lexFrom position (gap ++ (lexeme.text ++ other)) =
        Lexed.behind [lexeme] (lexFrom (lexeme.start.after lexeme.text) other) := by
  obtain ⟨trivia, _⟩ := trivia_take source
  obtain ⟨visible, _⟩ := triviaLength_visible source
  have cut := List.take_append_drop (triviaLength false source) source
  rw [lexFrom_eq] at run
  generalize source.take (triviaLength false source) = gap at trivia cut run
  generalize source.drop (triviaLength false source) = text at trivia visible cut run
  cases text with
  | nil => cases run
  | cons c text =>
      have seen := visible c rfl
      rw [lexAt] at run
      split at run
      next => cases run
      next token length scanned =>
        obtain ⟨used, rest, rfl, rfl, steady⟩ := scan_steady scanned
        rw [List.take_left, List.drop_left] at run
        simp only [Lexed.behind, List.singleton_append, Lexed.mk.injEq, List.cons.injEq] at run
        obtain ⟨⟨rfl, rfl⟩, rfl⟩ := run
        refine ⟨gap, rest, cut.symm, trivia, ⟨c, used, rfl, seen⟩, rfl, rfl,
          fun other interrupts => ?_⟩
        have trivia : Trivia (c :: (used ++ other)) gap := trivia.before rfl
        dsimp only
        rw [List.cons_append, lexFrom_gap position trivia,
          lexFrom_token _ seen (steady other interrupts), List.take_left, List.drop_left]

def endOf (place : Nat) : List Lexeme → Nat
  | [] => place
  | lexeme :: rest => endOf (lexeme.start.offset + lexeme.text.length) rest

def startOf (place : Nat) : List Lexeme → Nat
  | [] => place
  | lexeme :: _ => lexeme.start.offset

theorem startOf_lexFrom {position last : Position} {text : List Char} {lexemes : List Lexeme}
    (visible : ∀ c ∈ text.head?, startsTrivia c = false)
    (run : lexFrom position text = ⟨lexemes, .ok last⟩) :
    startOf (position.offset + text.length) lexemes = position.offset := by
  cases text with
  | nil =>
      rw [lexFrom_nil] at run
      cases run
      rfl
  | cons c text =>
      rw [lexFrom_visible text (visible c rfl), lexAt] at run
      split at run
      next => cases run
      next =>
        have same : _ = lexemes := congrArg Lexed.lexemes run
        rw [← same]
        rfl

/-- A source can be cut between two tokens. What is put there does not change the tokens in front,
if white space or a comment comes first. -/
theorem lexFrom_cut {position : Position} {source : List Char} {before after : List Lexeme}
    {ending : Except LexError Position}
    (run : lexFrom position source = ⟨before ++ after, ending⟩) :
    ∃ front gap back, source = front ++ (gap ++ back) ∧ Trivia back gap ∧
      (∀ c ∈ back.head?, startsTrivia c = false) ∧
      position.offset + front.length = endOf position.offset before ∧
      (∀ last, ending = .ok last → position.offset + (front ++ gap).length =
        startOf (position.offset + source.length) after) ∧
      lexFrom (position.after (front ++ gap)) back = ⟨after, ending⟩ ∧
      ∀ other, Interrupts other (gap ++ back) → lexFrom position (front ++ other) =
        Lexed.behind before (lexFrom (position.after front) other) := by
  induction before generalizing position source with
  | nil =>
      obtain ⟨trivia, _⟩ := trivia_take source
      obtain ⟨visible, _⟩ := triviaLength_visible source
      have cut := List.take_append_drop (triviaLength false source) source
      generalize source.take (triviaLength false source) = gap at trivia cut
      generalize source.drop (triviaLength false source) = back at trivia visible cut
      subst cut
      rw [lexFrom_gap position trivia, List.nil_append] at run
      refine ⟨[], gap, back, rfl, trivia, visible, rfl, ?_, run, fun other _ => rfl⟩
      rintro last rfl
      have starts := startOf_lexFrom visible run
      rw [Position.offset_after] at starts
      rw [List.nil_append, List.length_append, ← Nat.add_assoc, starts]
  | cons lexeme before ih =>
      obtain ⟨lead, rest, rfl, _, _, starts, later, steady⟩ := lexFrom_first run
      obtain ⟨front, gap, back, rfl, trivia, visible, ends, begins, tail, replay⟩ := ih later
      have reached : lexeme.start.after lexeme.text = position.after (lead ++ lexeme.text) := by
        rw [starts, Position.after_append]
      have offset : lexeme.start.offset = position.offset + lead.length := by
        rw [starts, Position.offset_after]
      rw [Position.offset_after] at ends begins
      refine ⟨lead ++ (lexeme.text ++ front), gap, back, by simp, trivia, visible, ?_, ?_, ?_, ?_⟩
      · rw [endOf, ← ends, offset]
        simp only [List.length_append]
        omega
      · intro last ended
        have whole : position.offset + (lead ++ (lexeme.text ++ (front ++ (gap ++ back)))).length =
            lexeme.start.offset + lexeme.text.length + (front ++ (gap ++ back)).length := by
          simp only [List.length_append]
          omega
        rw [whole, ← begins last ended, offset]
        simp only [List.length_append]
        omega
      · rw [← tail, reached]
        simp [Position.after_append]
      · intro other interrupts
        have run := steady (front ++ other) (interrupts.behind front)
        rw [replay other interrupts, ← Lexed.behind_append] at run
        simpa [reached, Position.after_append] using run

def tokensOf (lexemes : List Lexeme) : List Token :=
  lexemes.map (·.token)

/-- What ends the tokens, besides the end of the source. -/
def causeOf : Except LexError Position → Option LexCause
  | .ok _ => none
  | .error error => some error.cause

def Lexed.outline (lexed : Lexed) : List Token × Option LexCause :=
  (tokensOf lexed.lexemes, causeOf lexed.ending)

theorem behind_outline (lexemes : List Lexeme) (later : Lexed) :
    (Lexed.behind lexemes later).outline =
      (tokensOf lexemes ++ later.outline.1, later.outline.2) := by
  simp [Lexed.outline, Lexed.behind, tokensOf]

theorem outline_behind {lexemes others : List Lexeme} {first second : Lexed}
    (tokens : tokensOf lexemes = tokensOf others) (same : first.outline = second.outline) :
    (Lexed.behind lexemes first).outline = (Lexed.behind others second).outline := by
  rw [behind_outline, behind_outline, tokens, same]

theorem outline_lexFrom (position other : Position) (source : List Char) :
    (lexFrom position source).outline = (lexFrom other source).outline := by
  generalize size : source.length = length
  induction length using Nat.strongRecOn generalizing position other source with
  | ind length ih =>
      rw [lexFrom_eq position, lexFrom_eq other]
      have cut := congrArg List.length
        (List.take_append_drop (triviaLength false source) source)
      generalize source.take (triviaLength false source) = gap at cut ⊢
      generalize source.drop (triviaLength false source) = text at cut ⊢
      cases text with
      | nil => rfl
      | cons c text =>
          rw [lexAt, lexAt]
          cases scan c text with
          | error fault => rfl
          | ok found =>
              have shorter : (text.drop found.2).length < length := by
                simp only [List.length_append, List.length_cons, List.length_drop] at cut ⊢
                omega
              exact outline_behind rfl (ih _ shorter _ _ _ rfl)

theorem Filler.inComment {filler : List Char} (isFiller : Filler filler) :
    ∃ body gap, filler = body ++ gap ∧ '\n' ∉ body ∧
      (∀ c, (gap ++ []).head? = some c → c = '\n') ∧ Trivia [] gap := by
  induction isFiller with
  | nil => exact ⟨[], [], rfl, List.not_mem_nil, by simp, .nil⟩
  | @space c gap space later ih =>
      by_cases newline : c = '\n'
      · subst newline
        exact ⟨[], _, rfl, List.not_mem_nil, by simp, .space space (later.trivia [])⟩
      · obtain ⟨body, rest, rfl, inLine, ends, trivia⟩ := ih
        exact ⟨c :: body, rest, rfl, by simp [Ne.symm newline, inLine], ends, trivia⟩
  | @comment body gap inLine later _ =>
      exact ⟨'#' :: body, '\n' :: gap, rfl, by simp [inLine], by simp,
        .space Unicode.isWhiteSpace_newline (later.trivia [])⟩

theorem Trivia.append_filler {gap filler : List Char} (trivia : Trivia [] gap)
    (isFiller : Filler filler) : Trivia [] (gap ++ filler) := by
  induction trivia with
  | nil => exact isFiller.trivia []
  | space space _ ih => exact .space space ih
  | @comment body gap inLine ends later ih =>
      cases gap with
      | nil =>
          obtain ⟨more, rest, rfl, moreInLine, moreEnds, trivia⟩ := isFiller.inComment
          have whole : '#' :: (body ++ []) ++ (more ++ rest) =
              '#' :: ((body ++ more) ++ rest) := by simp
          rw [whole]
          exact .comment (by simp [inLine, moreInLine]) moreEnds trivia
      | cons c gap =>
          rw [List.cons_append, List.append_assoc]
          exact .comment inLine ends ih

/-- What a gap becomes with a filler in place of some run of it, which may be empty or the whole
gap. The run neither starts nor ends inside a comment. -/
inductive Refills (gap filler : List Char) : List Char → Prop
  | mk {first run last} : gap = first ++ (run ++ last) → Filler first ∨ run ++ last = [] →
      Filler run ∨ last = [] → Refills gap filler (first ++ (filler ++ last))

theorem Refills.starts {gap filler other back : List Char} (refills : Refills gap filler other)
    (trivia : Trivia back gap) (isFiller : Filler filler) (some : filler ≠ []) :
    Interrupts (other ++ back) (gap ++ back) := by
  -- what comes first is the start of the gap, or of the filler if all in front of it is replaced
  refine ⟨[], gap ++ back, other ++ back, rfl, rfl, ?_⟩
  obtain ⟨d, rest, rfl⟩ := List.exists_cons_of_ne_nil some
  obtain @⟨first, run, last, cut, _, _⟩ := refills
  intro c head
  cases first with
  | nil =>
      cases head
      exact (isFiller.trivia []).starts d rfl
  | cons e first => exact trivia.starts c (cut ▸ head)

theorem lexFrom_refilled {gap filler other back : List Char} (trivia : Trivia back gap)
    (visible : ∀ c ∈ back.head?, startsTrivia c = false) (isFiller : Filler filler)
    (refills : Refills gap filler other) (position here : Position) :
    (lexFrom position (other ++ back)).outline = (lexFrom here back).outline := by
  have skipped : ∀ {gap : List Char} (position : Position), Trivia back gap →
      (lexFrom position (gap ++ back)).outline = (lexFrom here back).outline := by
    intro gap position trivia
    rw [lexFrom_gap position trivia]
    exact outline_lexFrom _ _ _
  obtain @⟨first, run, last, cut, begins, ends⟩ := refills
  by_cases closed : Filler first
  · have rest : (lexFrom position (last ++ back)).outline = (lexFrom here back).outline := by
      rcases ends with isRun | rfl
      · have whole := skipped position trivia
        rw [cut, List.append_assoc, List.append_assoc, lexFrom_gap position (closed.trivia _),
          lexFrom_gap _ (isRun.trivia _)] at whole
        rw [← whole]
        exact outline_lexFrom _ _ _
      · exact outline_lexFrom _ _ _
    rw [List.append_assoc, List.append_assoc, lexFrom_gap position (closed.trivia _),
      lexFrom_gap _ (isFiller.trivia _), ← rest]
    exact outline_lexFrom _ _ _
  · obtain ⟨rfl, rfl⟩ := List.append_eq_nil_iff.mp (begins.resolve_left closed)
    simp only [List.append_nil] at cut ⊢
    subst cut
    cases back with
    | nil => exact skipped position (trivia.append_filler isFiller)
    | cons c back =>
        exact absurd (trivia.filler ⟨c, back, rfl, visible c rfl⟩) closed

/-- Between any two tokens, and in front of the first and behind the last, the gap can be refilled
without changing the tokens. -/
theorem lex_refilled {source : String} {last : Position} {before after : List Lexeme}
    (ended : (lex source).ending = .ok last) (split : (lex source).lexemes = before ++ after) :
    ∃ front gap back, source.toList = front ++ (gap ++ back) ∧ Trivia back gap ∧
      front.length = endOf 0 before ∧ (front ++ gap).length = startOf source.length after ∧
      ∀ filler other, Filler filler → filler ≠ [] → Refills gap filler other →
        (lex (String.ofList (front ++ (other ++ back)))).outline = (lex source).outline := by
  have run : lexFrom .start source.toList = ⟨before ++ after, .ok last⟩ := by
    rw [← split, ← ended]
    rfl
  obtain ⟨front, gap, back, cut, trivia, visible, ends, begins, _, replay⟩ := lexFrom_cut run
  have begins := begins last rfl
  simp only [Position.start, Nat.zero_add] at ends begins
  refine ⟨front, gap, back, cut, trivia, ends, begins, ?_⟩
  intro filler other isFiller some refills
  have interrupts := refills.starts trivia isFiller some
  rw [lex, lex, String.toList_ofList, cut, replay _ interrupts, replay _ (.refl _)]
  apply outline_behind rfl
  rw [lexFrom_refilled trivia visible isFiller refills _ .start, lexFrom_gap _ trivia]
  exact outline_lexFrom _ _ _

end Stencil.Source
