import Stencil.Proofs.Blame
import Stencil.Proofs.Placement

/-! Errors of parsing point at the first place where a template goes wrong: up to there it is the
beginning of some template, and no template goes on from there with a token of the same variant. -/

namespace Stencil.Source

def Accepted (tokens : List Token) : Prop :=
  ∃ (lexed : Lexed) (expr : Expr), tokensOf lexed.lexemes = tokens ∧ lexed.parse = .ok expr

theorem tokensOf_of (before : List Lexeme) (more : List Token) :
    tokensOf (before ++ more.map .of) = tokensOf before ++ more := by
  simp [tokensOf, Lexeme.of, Function.comp_def]

theorem spells_retold {levels : Nat} {used other : List Lexeme}
    (word : Spells (DerivesWithin levels) used) (same : tokensOf used = tokensOf other) :
    Spells (DerivesWithin levels) other := by
  obtain ⟨expr, word⟩ := word
  have recognized := value_recognizes (.ok .start) levels
  obtain ⟨parsed, run, _, behind⟩ := (recognized used expr []).mpr ⟨used, by simp, word⟩
  have alike : causeOf (.ok .start) = causeOf (.ok .start) := rfl
  have runs := value_agrees alike levels _ _ same
  rw [run] at runs
  generalize again : value (.ok .start) levels other = outcome at runs
  cases runs with
  | @ok _ twin _ rest =>
      rw [behind] at rest
      have nothing : twin.rest = [] := List.map_eq_nil_iff.mp rest.symm
      obtain ⟨front, cut, derives⟩ := (recognized other _ []).mp ⟨twin, again, rfl, nothing⟩
      rw [List.append_nil] at cut
      subst cut
      exact ⟨_, derives⟩

theorem not_accepted {before behind : List Lexeme} {more : List Token}
    (stuck : ∀ others, SameStart behind others →
      ¬Spells (DerivesWithin maxDepth) (before ++ others))
    (same : SameStart behind (more.map .of)) : ¬Accepted (tokensOf before ++ more) := by
  rintro ⟨lexed, expr, tokens, parsed⟩
  have word : Spells (DerivesWithin maxDepth) lexed.lexemes :=
    ⟨expr, ((lexed_parse_iff lexed expr).mp parsed).2⟩
  exact stuck _ same (spells_retold word (tokens.trans (tokensOf_of before more).symm))

theorem lexed_parse_blamed {lexed : Lexed} {error : ParseError}
    (failed : lexed.parse = .error error) :
    ∃ before behind, lexed.lexemes = before ++ behind ∧ Points lexed.ending error behind ∧
      Completes (Spells (DerivesWithin maxDepth)) before ∧
      (∀ position, error = .tooDeep position →
        Completes (Spells (DerivesWithin (maxDepth + 1))) (before ++ behind.take 1)) ∧
      ((∀ reason, error ≠ .lex reason) → ∀ others, SameStart behind others →
        ¬Spells (DerivesWithin maxDepth) (before ++ others)) := by
  rcases bind_eq_error.mp failed with failed | ⟨parsed, run, failed⟩
  · obtain ⟨before, behind, cut, blame⟩ := (value_blames maxDepth).blamed failed
    exact ⟨before, behind, cut, blame.points, blame.viable, blame.deeper, fun _ others same =>
      blame.stuck others same _ [] (List.append_nil _).symm⟩
  · have recognized := value_recognizes lexed.ending maxDepth
    obtain ⟨used, cut, word⟩ := (recognized _ _ _).mp ⟨parsed, run, rfl, rfl⟩
    obtain ⟨expr, rest, fewer⟩ := parsed
    have points : error = unexpected lexed.ending .endOfInput rest ∧
        (rest = [] → ∃ reason, error = .lex reason) := by
      cases rest with
      | nil =>
          cases ended : lexed.ending with
          | ok position =>
              rw [ended] at failed
              cases failed
          | error reason =>
              rw [ended] at failed
              cases failed
              exact ⟨rfl, fun _ => ⟨reason, rfl⟩⟩
      | cons lexeme rest =>
          cases failed
          exact ⟨rfl, nofun⟩
    obtain ⟨rfl, finished⟩ := points
    refine ⟨used, rest, cut, unexpected_points _ _ _, .of_word ⟨_, word⟩,
      fun position deep => absurd deep (unexpected_shallow _ _ _ _), ?_⟩
    intro notLex others same longer
    obtain rfl := recognized.free ⟨_, word⟩ longer
    cases rest with
    | nil =>
        obtain ⟨reason, isLex⟩ := finished rfl
        exact notLex reason isLex
    | cons lexeme rest =>
        obtain ⟨_, _, ⟨⟩, _⟩ := same

def spelling : Token → List Char
  | .null => "null".toList
  | .string _ => "\"\"".toList
  | .query _ => "$".toList
  | .leftBracket => "[".toList
  | .leftParen => "(".toList
  | .rightBracket => "]".toList
  | .rightBrace => "\x7d".toList
  | .rightParen => ")".toList
  | .colon => ":".toList
  | _ => []

theorem lexFrom_spelling : ∀ token ∈ handy, ∃ last,
    lexFrom .start (spelling token) = ⟨[⟨token, spelling token, .start⟩], .ok last⟩ := by
  simp only [handy, List.forall_mem_cons, List.not_mem_nil, false_implies, implies_true, and_true]
  refine ⟨⟨⟨1, 5, 4⟩, ?_⟩, ⟨⟨1, 3, 2⟩, ?_⟩, ⟨⟨1, 2, 1⟩, ?_⟩, ⟨⟨1, 2, 1⟩, ?_⟩, ⟨⟨1, 2, 1⟩, ?_⟩,
    ⟨⟨1, 2, 1⟩, ?_⟩, ⟨⟨1, 2, 1⟩, ?_⟩, ⟨⟨1, 2, 1⟩, ?_⟩, ⟨⟨1, 2, 1⟩, ?_⟩⟩ <;> cbv

def spelled (tokens : List Token) : List Char :=
  tokens.flatMap fun token => ' ' :: spelling token

theorem spelled_interrupts (tokens : List Token) (behind : List Char) :
    Interrupts (spelled tokens) behind := by
  refine ⟨[], behind, spelled tokens, rfl, rfl, ?_⟩
  cases tokens with
  | nil => exact nofun
  | cons token rest =>
      rintro _ ⟨⟩
      decide

theorem lexFrom_spelled {tokens : List Token} (inHandy : tokens ⊆ handy) (position : Position) :
    (lexFrom position (spelled tokens)).outline = (tokens, none) := by
  induction tokens generalizing position with
  | nil =>
      change (lexFrom position []).outline = ([], none)
      rw [lexFrom_nil]
      rfl
  | cons token rest ih =>
      obtain ⟨first, others⟩ := List.cons_subset.mp inHandy
      obtain ⟨last, run⟩ := lexFrom_spelling token first
      obtain ⟨gap, back, cut, _, _, _, _, replay⟩ := lexFrom_first run
      dsimp only at cut replay
      have lengths := congrArg List.length cut
      simp only [List.length_append] at lengths
      obtain rfl : gap = [] := List.length_eq_zero_iff.mp (by omega)
      have space : Trivia (spelling token ++ spelled rest) [' '] := .space (by decide) .nil
      have whole : spelled (token :: rest) = [' '] ++ (spelling token ++ spelled rest) := by
        simp [spelled]
      rw [whole, lexFrom_gap position space, outline_lexFrom _ .start]
      have scanned := replay (spelled rest) (spelled_interrupts rest back)
      rw [List.nil_append] at scanned
      rw [scanned, behind_outline, ih others]
      rfl

/-- What stands in front of a token in some source can go on with other tokens. -/
theorem lex_completed {source : String} {before after : List Lexeme} {more : List Token}
    (split : (lex source).lexemes = before ++ after) (inHandy : more ⊆ handy) :
    ∃ other : String, (lex other).outline = (tokensOf before ++ more, none) := by
  have run : lexFrom .start source.toList = ⟨before ++ after, (lex source).ending⟩ := by
    rw [← split]
    rfl
  obtain ⟨front, gap, back, _, _, _, _, _, _, replay⟩ := lexFrom_cut run
  refine ⟨String.ofList (front ++ spelled more), ?_⟩
  rw [lex, String.toList_ofList, replay _ (spelled_interrupts more _), behind_outline,
    lexFrom_spelled inHandy]

theorem completed {source : String} {before after : List Lexeme} {levels : Nat}
    (split : (lex source).lexemes = before ++ after)
    (completes : Completes (Spells (DerivesWithin levels)) before) :
    ∃ other expr, tokensOf before <+: tokensOf (lex other).lexemes ∧
      (∃ last, (lex other).ending = .ok last) ∧ DerivesWithin levels (lex other).lexemes expr := by
  obtain ⟨more, inHandy, word⟩ := completes
  obtain ⟨other, outline⟩ := lex_completed split inHandy
  obtain ⟨tokens, cause⟩ := Prod.mk.inj outline
  have same : tokensOf (before ++ more.map .of) = tokensOf (lex other).lexemes := by
    rw [tokensOf_of]
    exact tokens.symm
  obtain ⟨expr, derives⟩ := spells_retold word same
  refine ⟨other, expr, ⟨more, tokens.symm⟩, ?_, derives⟩
  cases ended : (lex other).ending with
  | ok last => exact ⟨last, rfl⟩
  | error reason =>
      rw [ended] at cause
      cases cause

/-- Errors of parsing point at the first place where a template goes wrong. The tokens in front of
it begin a template. A token that is not expected stands where no template has any token of its
variant, and a token that is nested too deep stands where a template has to nest deeper than it may;
an error of the lexer is what the next call for a token gives. -/
theorem parse_error_earliest {source : String} {error : ParseError}
    (failed : parse source = .error error) :
    ∃ before behind, (lex source).lexemes = before ++ behind ∧
      (∃ other expr, parse other = .ok expr ∧
        tokensOf before <+: tokensOf (lex other).lexemes) ∧
      match error with
      | .lex reason => behind = [] ∧
          Cursor.call before.length ⟨.start, source.toList⟩ = .error reason
      | .unexpected _ (some found) position =>
          (∃ lexeme rest, behind = lexeme :: rest ∧ lexeme.token = found ∧
            lexeme.start = position) ∧
          ∀ token more, found.SameVariant token → ¬Accepted (tokensOf before ++ token :: more)
      | .unexpected _ none position => behind = [] ∧
          Cursor.call before.length ⟨.start, source.toList⟩ = .ok (none, ⟨position, []⟩) ∧
          ¬Accepted (tokensOf before)
      | .tooDeep position => ∃ lexeme rest, behind = lexeme :: rest ∧ lexeme.start = position ∧
          lexeme.token.Opening ∧ (∀ more, ¬Accepted (tokensOf before ++ lexeme.token :: more)) ∧
          ∃ other expr, tokensOf before ++ [lexeme.token] <+: tokensOf (lex other).lexemes ∧
            Derives (lex other).lexemes expr ∧ expr.depth = 129 := by
  obtain ⟨before, behind, cut, points, viable, deeper, stuck⟩ := lexed_parse_blamed failed
  obtain ⟨other, expr, front, ended, derives⟩ := completed cut viable
  have delivers := lexFrom_delivers ⟨.start, source.toList⟩
  refine ⟨before, behind, cut, ⟨other, expr, ?_, front⟩, ?_⟩
  · exact (lexed_parse_iff (lex other) expr).mpr ⟨ended, derives⟩
  cases points with
  | lex unlexed =>
      rw [List.append_nil] at cut
      subst cut
      exact ⟨rfl, delivers.failed _ unlexed⟩
  | ended finished =>
      rw [List.append_nil] at cut
      subst cut
      refine ⟨rfl, delivers.finished _ finished _ (Nat.le_refl _), ?_⟩
      rw [← List.append_nil (tokensOf _)]
      exact not_accepted (stuck nofun) rfl
  | @token _ lexeme rest =>
      exact ⟨⟨lexeme, rest, rfl, rfl, rfl⟩, fun token more variant =>
        not_accepted (stuck nofun) ⟨.of token, _, rfl, variant⟩⟩
  | @tooDeep lexeme rest opening =>
      have none : ∀ more, ¬Accepted (tokensOf before ++ lexeme.token :: more) :=
        fun more => not_accepted (stuck nofun) ⟨.of lexeme.token, _, rfl, rfl⟩
      rw [List.append_cons] at cut
      obtain ⟨other, expr, front, ended, derives, depth⟩ := completed cut (deeper _ rfl)
      have tokens : tokensOf (before ++ [lexeme]) = tokensOf before ++ [lexeme.token] := by
        simp [tokensOf]
      rw [tokens] at front
      refine ⟨lexeme, rest, rfl, rfl, opening, none, other, expr, front, derives, ?_⟩
      obtain ⟨more, same⟩ := front
      rw [List.append_assoc] at same
      have deep : ¬expr.depth ≤ maxDepth := fun shallow =>
        none more ⟨lex other, expr, same.symm, (lexed_parse_iff _ _).mpr ⟨ended, derives, shallow⟩⟩
      simp only [maxDepth] at depth deep
      omega

theorem parse_error_earliest_missing :
    parse "[null null]" = .error (.unexpected (.token .comma) (some .null) ⟨1, 7, 6⟩) ∧
    (∃ other expr, parse other = .ok expr ∧
      [.leftBracket, .null] <+: tokensOf (lex other).lexemes) ∧
    ∀ more, ¬Accepted (.leftBracket :: .null :: .null :: more) := by
  have failed : parse "[null null]" =
      .error (.unexpected (.token .comma) (some .null) ⟨1, 7, 6⟩) := by cbv
  have tokens : (lex "[null null]").lexemes.map (fun lexeme => (lexeme.token, lexeme.start)) =
      [(.leftBracket, ⟨1, 1, 0⟩), (.null, ⟨1, 2, 1⟩), (.null, ⟨1, 7, 6⟩),
        (.rightBracket, ⟨1, 11, 10⟩)] := by cbv
  obtain ⟨before, behind, cut, viable, ⟨lexeme, rest, rfl, _, starts⟩, none⟩ :=
    parse_error_earliest failed
  have place : tokensOf before = [.leftBracket, .null] := by
    rw [cut] at tokens
    rcases before with _ | ⟨first, _ | ⟨second, _ | ⟨third, _ | ⟨fourth, before⟩⟩⟩⟩ <;>
      simp_all [tokensOf]
  rw [place] at viable none
  exact ⟨failed, viable, fun more => none .null more rfl⟩

end Stencil.Source
