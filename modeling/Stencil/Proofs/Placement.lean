import Stencil.Proofs.Layout
import Stencil.Proofs.Parsing
import Stencil.Template.Basic

/-! Places in a source are carried along and never looked at. From the same tokens the parser makes
the same expression and the compiler the same template, but for the places in them. -/

namespace Stencil

namespace Source

variable {α β γ δ : Type}

namespace Expr

mutual

def unplaced : Expr → Expr
  | null => null
  | bool b => bool b
  | number x => number x
  | string s => string s
  | array items => array (unplacedItems items)
  | object fields => object (unplacedFields fields)
  | extractor query _ => extractor query .start
  | generator query template _ => generator query template.unplaced .start
  | call name args _ => call name (unplacedItems args) .start
termination_by structural expr => expr

def unplacedItems : List Expr → List Expr
  | [] => []
  | expr :: rest => expr.unplaced :: unplacedItems rest
termination_by structural exprs => exprs

def unplacedFields : List (String × Annotated Expr) → List (String × Annotated Expr)
  | [] => []
  | (name, ⟨label, expr⟩) :: rest => (name, ⟨label, expr.unplaced⟩) :: unplacedFields rest
termination_by structural fields => fields

end

def unplacedField : String × Annotated Expr → String × Annotated Expr
  | (name, ⟨label, expr⟩) => (name, ⟨label, expr.unplaced⟩)

theorem unplacedItems_eq (items : List Expr) : unplacedItems items = items.map unplaced := by
  induction items with
  | nil => rfl
  | cons item rest ih => rw [unplacedItems, List.map_cons, ih]

theorem unplacedFields_eq (fields : List (String × Annotated Expr)) :
    unplacedFields fields = fields.map unplacedField := by
  induction fields with
  | nil => rfl
  | cons field rest ih => rw [unplacedFields, List.map_cons, ih]; rfl

end Expr

def ParseError.unplaced : ParseError → ParseError
  | lex error => lex ⟨error.cause, .start⟩
  | unexpected expected found _ => unexpected expected found .start
  | tooDeep _ => tooDeep .start

/-- Two runs over different places come to the same end, seen through a view of their results. -/
inductive Parallel (view : α → β) {tokens others : List Lexeme} :
    Except ParseError (Parsed α tokens) → Except ParseError (Parsed α others) → Prop
  | ok {parsed other} : view parsed.result = view other.result →
      tokensOf parsed.rest = tokensOf other.rest → Parallel view (.ok parsed) (.ok other)
  | error {error other} : error.unplaced = other.unplaced →
      Parallel view (.error error) (.error other)

theorem Parallel.bind {view : α → β} {other : γ → δ} {front back whole again : List Lexeme}
    {first : Except ParseError (Parsed α front)} {second : Except ParseError (Parsed α back)}
    (runs : Parallel view first second) {next : Parsed α front → Except ParseError (Parsed γ whole)}
    {later : Parsed α back → Except ParseError (Parsed γ again)}
    (each : ∀ parsed twin, view parsed.result = view twin.result →
      tokensOf parsed.rest = tokensOf twin.rest → Parallel other (next parsed) (later twin)) :
    Parallel other (first >>= next) (second >>= later) := by
  cases runs with
  | ok result rest => exact each _ _ result rest
  | error same => exact .error same

def Agrees (view : α → β) (parser twin : Parser α) : Prop :=
  ∀ tokens others, tokensOf tokens = tokensOf others → Parallel view (parser tokens) (twin others)

theorem tokensOf_alike {tokens others : List Lexeme} (same : tokensOf tokens = tokensOf others) :
    (tokens = [] ∧ others = []) ∨ ∃ lexeme rest twin more, tokens = lexeme :: rest ∧
      others = twin :: more ∧ twin.token = lexeme.token ∧ tokensOf rest = tokensOf more := by
  cases tokens with
  | nil => exact Or.inl ⟨rfl, List.map_eq_nil_iff.mp same.symm⟩
  | cons lexeme rest =>
      obtain ⟨twin, more, cut, found, behind⟩ := List.map_eq_cons_iff.mp same.symm
      exact Or.inr ⟨lexeme, rest, twin, more, rfl, cut, found, behind.symm⟩

section

variable {ending other : Except LexError Position}

theorem unexpected_unplaced (alike : causeOf ending = causeOf other) (expected : Expectation)
    {tokens others : List Lexeme} (same : tokensOf tokens = tokensOf others) :
    (unexpected ending expected tokens).unplaced = (unexpected other expected others).unplaced := by
  obtain ⟨rfl, rfl⟩ | ⟨lexeme, rest, twin, more, rfl, rfl, found, _⟩ := tokensOf_alike same
  · cases ending <;> cases other <;> simp_all [unexpected, causeOf, ParseError.unplaced]
  · simp [unexpected, ParseError.unplaced, found]

theorem startsWith_eq (token : Token) {tokens others : List Lexeme}
    (same : tokensOf tokens = tokensOf others) :
    startsWith token tokens = startsWith token others := by
  obtain ⟨rfl, rfl⟩ | ⟨lexeme, rest, twin, more, rfl, rfl, found, _⟩ := tokensOf_alike same
  · rfl
  · simp [found]

variable (alike : causeOf ending = causeOf other)
include alike

theorem unexpected_parallel (view : α → β) (expected : Expectation) {tokens others : List Lexeme}
    (same : tokensOf tokens = tokensOf others) : Parallel view
      (.error (unexpected ending expected tokens) : Except ParseError (Parsed α tokens))
      (.error (unexpected other expected others) : Except ParseError (Parsed α others)) :=
  .error (unexpected_unplaced alike expected same)

theorem expect_agrees (token : Token) : Agrees id (expect ending token) (expect other token) := by
  intro tokens others same
  have failed := unexpected_parallel alike (id : Unit → Unit) (.token token) same
  obtain ⟨rfl, rfl⟩ | ⟨lexeme, rest, twin, more, rfl, rfl, found, behind⟩ := tokensOf_alike same
  · exact failed
  · simp only [expect, found]
    split
    · exact .ok rfl behind
    · exact failed

theorem sequence_agrees {view : α → β} {item twin : Parser α} (each : Agrees view item twin)
    (close : Token) (trailingComma : Bool) : Agrees (List.map view)
      (sequence ending item close trailingComma) (sequence other twin close trailingComma) := by
  intro tokens others same
  generalize size : tokens.length = length
  induction length using Nat.strongRecOn generalizing tokens others with
  | ind length ih =>
      rw [sequence, sequence, startsWith_eq close same]
      split
      next =>
        apply (expect_agrees alike close tokens others same).bind
        intro closed closedTwin _ rest
        exact .ok rfl rest
      next =>
        apply (each tokens others same).bind
        intro first firstTwin result rest
        rw [startsWith_eq close rest]
        split
        next =>
          apply (expect_agrees alike close _ _ rest).bind
          intro closed closedTwin _ behind
          exact .ok (by simpa [Parsed.within, Parsed.map] using result) behind
        next =>
          apply (expect_agrees alike .comma _ _ rest).bind
          intro comma commaTwin _ behind
          rw [startsWith_eq close behind]
          split
          next => exact .error (unexpected_unplaced alike .value behind)
          next =>
            have fewer : comma.rest.length < length :=
              size ▸ Nat.lt_trans comma.fewer first.fewer
            apply (ih _ fewer _ _ behind rfl).bind
            intro more moreTwin results left
            refine .ok ?_ left
            simp [Parsed.within, Parsed.map, result, results]

theorem fieldLabel_agrees {tokens others : List Lexeme} (same : tokensOf tokens = tokensOf others) :
    (∃ label rest twin, fieldLabel ending tokens = .ok (label, rest) ∧
      fieldLabel other others = .ok (label, twin) ∧ tokensOf rest.val = tokensOf twin.val) ∨
    ∃ error twin, fieldLabel ending tokens = .error error ∧
      fieldLabel other others = .error twin ∧ error.unplaced = twin.unplaced := by
  obtain ⟨rfl, rfl⟩ | ⟨lexeme, rest, twin, more, rfl, rfl, found, behind⟩ := tokensOf_alike same
  · exact Or.inl ⟨_, _, _, rfl, rfl, rfl⟩
  · have failed := unexpected_unplaced alike .label behind
    simp only [fieldLabel, found]
    split
    next =>
      obtain ⟨rfl, rfl⟩ | ⟨word, rest, wordTwin, others, rfl, rfl, wordFound, left⟩ :=
        tokensOf_alike behind
      · exact Or.inr ⟨_, _, rfl, rfl, failed⟩
      · simp only [wordFound]
        split
        next => exact Or.inl ⟨_, _, _, rfl, rfl, left⟩
        next => exact Or.inr ⟨_, _, rfl, rfl, failed⟩
    next => exact Or.inl ⟨_, _, _, rfl, rfl, same⟩

theorem key_agrees : Agrees id (key ending) (key other) := by
  intro tokens others same
  have failed := unexpected_parallel alike (id : String → String) .key same
  obtain ⟨rfl, rfl⟩ | ⟨lexeme, rest, twin, more, rfl, rfl, found, behind⟩ := tokensOf_alike same
  · exact failed
  · simp only [key, found]
    split
    next => exact .ok rfl behind
    next => exact failed

theorem field_agrees {value twin : Parser Expr} (each : Agrees Expr.unplaced value twin) :
    Agrees Expr.unplacedField (field ending value) (field other twin) := by
  intro tokens others same
  unfold field
  rcases fieldLabel_agrees alike same with
    ⟨label, ⟨start, _⟩, ⟨startTwin, _⟩, run, runTwin, rest⟩ | ⟨error, errorTwin, run, runTwin, e⟩
  · rw [run, runTwin]
    apply (key_agrees alike _ _ rest).bind
    intro name nameTwin names behind
    apply (expect_agrees alike .colon _ _ behind).bind
    intro colon colonTwin _ behind
    apply (each _ _ behind).bind
    intro content contentTwin contents behind
    refine .ok ?_ behind
    simp only [id] at names
    simp [Expr.unplacedField, names, contents]
  · rw [run, runTwin]
    exact .error e

theorem generatorBody_agrees {value twin : Parser Expr} (each : Agrees Expr.unplaced value twin) :
    Agrees (fun body : String × Expr => (body.1, body.2.unplaced))
      (generatorBody ending value) (generatorBody other twin) := by
  intro tokens others same
  have failed := unexpected_parallel alike (fun body : String × Expr => (body.1, body.2.unplaced))
    .generatorQuery same
  obtain ⟨rfl, rfl⟩ | ⟨query, rest, queryTwin, more, rfl, rfl, found, behind⟩ :=
    tokensOf_alike same
  · exact failed
  · simp only [generatorBody, found]
    split
    next =>
      apply (expect_agrees alike .leftBracket _ _ behind).bind
      intro opening openingTwin _ behind
      apply (each _ _ behind).bind
      intro template templateTwin templates behind
      apply (expect_agrees alike .rightBracket _ _ behind).bind
      intro closing closingTwin _ behind
      exact .ok (by simp [Parsed.behind, templates]) behind
    next => exact failed

theorem arguments_agrees {value twin : Parser Expr} (each : Agrees Expr.unplaced value twin) :
    Agrees (List.map Expr.unplaced) (arguments ending value) (arguments other twin) := by
  intro tokens others same
  unfold arguments
  apply (expect_agrees alike .leftParen _ _ same).bind
  intro opening openingTwin _ behind
  apply (sequence_agrees alike each .rightParen false _ _ behind).bind
  intro args argsTwin results behind
  exact .ok results behind

omit alike in
theorem Parallel.behind {view : α → β} {look : γ → δ} {tokens others : List Lexeme}
    {first : Except ParseError (Parsed α tokens)} {second : Except ParseError (Parsed α others)}
    (runs : Parallel view first second) {lexeme twin : Lexeme} {f g : α → γ}
    (each : ∀ result again, view result = view again → look (f result) = look (g again)) :
    Parallel look (first.map (Parsed.behind lexeme f)) (second.map (Parsed.behind twin g)) := by
  cases runs with
  | ok result rest => exact .ok (each _ _ result) rest
  | error same => exact .error same

theorem value_agrees (levels : Nat) :
    Agrees Expr.unplaced (value ending levels) (value other levels) := by
  induction levels with
  | zero =>
      intro tokens others same
      have failed := unexpected_unplaced alike .value same
      obtain ⟨rfl, rfl⟩ | ⟨lexeme, rest, twin, more, rfl, rfl, found, behind⟩ := tokensOf_alike same
      · exact .error failed
      · unfold value
        rw [found]
        cases lexeme.token <;>
          first
            | exact .ok rfl behind
            | exact .error rfl
            | exact .error failed
  | succ levels ih =>
      intro tokens others same
      have failed := unexpected_unplaced alike .value same
      obtain ⟨rfl, rfl⟩ | ⟨lexeme, rest, twin, more, rfl, rfl, found, behind⟩ := tokensOf_alike same
      · exact .error failed
      · unfold value
        rw [found]
        cases lexeme.token with
        | leftBrace =>
            have inner := sequence_agrees alike (field_agrees alike ih) .rightBrace true
            refine (inner _ _ behind).behind fun fields others alike => ?_
            simp [Expr.unplaced, Expr.unplacedFields_eq, alike]
        | leftBracket =>
            have inner := sequence_agrees alike ih .rightBracket true
            refine (inner _ _ behind).behind fun items others alike => ?_
            simp [Expr.unplaced, Expr.unplacedItems_eq, alike]
        | range =>
            have inner := generatorBody_agrees alike ih
            refine (inner _ _ behind).behind fun body other alike => ?_
            simp_all [Expr.unplaced]
        | name name =>
            have inner := arguments_agrees alike ih
            refine (inner _ _ behind).behind fun args others alike => ?_
            simp [Expr.unplaced, Expr.unplacedItems_eq, alike]
        | _ =>
            first
              | exact .ok rfl behind
              | exact .error failed

end

theorem parse_outline {first second : Lexed} (same : first.outline = second.outline) :
    (first.parse.map Expr.unplaced).mapError ParseError.unplaced =
      (second.parse.map Expr.unplaced).mapError ParseError.unplaced := by
  obtain ⟨lexemes, ending⟩ := first
  obtain ⟨others, other⟩ := second
  obtain ⟨tokens, alike⟩ := Prod.mk.inj same
  simp only [] at tokens alike
  have runs := value_agrees alike maxDepth lexemes others tokens
  simp only [Lexed.parse]
  generalize value ending maxDepth lexemes = run at runs ⊢
  generalize value other maxDepth others = again at runs ⊢
  cases runs with
  | error same => simp [bind, Except.bind, Except.map, Except.mapError, same]
  | @ok parsed twin result rest =>
      obtain ⟨expr, left, _⟩ := parsed
      obtain ⟨exprTwin, others, _⟩ := twin
      have failed := unexpected_unplaced alike .endOfInput rest
      simp only [] at result rest failed
      obtain ⟨rfl, rfl⟩ | ⟨_, _, _, _, rfl, rfl, _, _⟩ := tokensOf_alike rest
      · cases ending <;> cases other
        · exact congrArg Except.error failed
        · cases alike
        · cases alike
        · exact congrArg Except.ok result
      · exact congrArg Except.error failed

end Source

open Source

def CompileError.unplaced : CompileError → CompileError
  | parse error => parse error.unplaced
  | query _ error => query .start error
  | unknownFunction name _ => unknownFunction name .start
  | notCallable name _ => notCallable name .start
  | invalidSignature name _ => invalidSignature name .start
  | arity name signature found _ => arity name signature found .start

theorem compileQuery_unplaced (text : String) (position other : Position) :
    (compileQuery text position).mapError CompileError.unplaced =
      (compileQuery text other).mapError CompileError.unplaced := by
  unfold compileQuery
  cases Query.compile text <;> rfl

theorem Functions.forCall_unplaced (functions : Functions) (name : String) (count : Nat)
    (position other : Position) :
    (functions.forCall name count position).mapError CompileError.unplaced =
      (functions.forCall name count other).mapError CompileError.unplaced := by
  unfold forCall
  split
  · rfl
  · rfl
  · split
    · rfl
    · split <;> rfl

namespace Node

variable (functions : Functions)

mutual

theorem compile_unplaced : ∀ expr : Expr,
    (compile functions expr.unplaced).mapError CompileError.unplaced =
      (compile functions expr).mapError CompileError.unplaced
  | .null => rfl
  | .bool _ => rfl
  | .number _ => rfl
  | .string _ => rfl
  | .array items => mapError_map_congr _ (compileItems_unplaced items)
  | .object fields => mapError_map_congr _ (compileFields_unplaced fields)
  | .extractor text position =>
      mapError_map_congr _ (compileQuery_unplaced text .start position)
  | .generator text template position => by
      apply mapError_bind_congr (compileQuery_unplaced text .start position)
      intro range
      exact mapError_bind_congr (compile_unplaced template) fun _ => rfl
  | .call name args position => by
      have counted : (Expr.unplacedItems args).length = args.length := by
        rw [Expr.unplacedItems_eq, List.length_map]
      rw [Expr.unplaced, compile, compile, counted]
      apply mapError_bind_congr (functions.forCall_unplaced name args.length .start position)
      intro function
      exact mapError_bind_congr (compileItems_unplaced args) fun _ => rfl

theorem compileItems_unplaced : ∀ exprs : List Expr,
    (compileItems functions (Expr.unplacedItems exprs)).mapError CompileError.unplaced =
      (compileItems functions exprs).mapError CompileError.unplaced
  | [] => rfl
  | expr :: rest =>
      mapError_bind_congr (compile_unplaced expr) fun _ =>
        mapError_bind_congr (compileItems_unplaced rest) fun _ => rfl

theorem compileFields_unplaced : ∀ fields : List (String × Annotated Expr),
    (compileFields functions (Expr.unplacedFields fields)).mapError CompileError.unplaced =
      (compileFields functions fields).mapError CompileError.unplaced
  | [] => rfl
  | (_, ⟨_, expr⟩) :: rest =>
      mapError_bind_congr (compile_unplaced expr) fun _ =>
        mapError_bind_congr (compileFields_unplaced rest) fun _ => rfl

end

end Node

namespace Template

theorem compile_outline (functions : Functions) {first second : String}
    (same : (lex first).outline = (lex second).outline) :
    (compile functions first).mapError CompileError.unplaced =
      (compile functions second).mapError CompileError.unplaced := by
  have parsed := parse_outline same
  unfold compile parse
  cases run : (lex first).parse with
  | error error =>
      cases other : (lex second).parse with
      | ok expr => simp [run, other, Except.map, Except.mapError] at parsed
      | error twin =>
          simp only [run, other, Except.map, Except.mapError, Except.error.injEq] at parsed
          exact congrArg (fun error => Except.error (CompileError.parse error)) parsed
  | ok expr =>
      cases other : (lex second).parse with
      | error error => simp [run, other, Except.map, Except.mapError] at parsed
      | ok twin =>
          simp only [run, other, Except.map, Except.mapError, Except.ok.injEq] at parsed
          have compiled : (Node.compile functions expr).mapError CompileError.unplaced =
              (Node.compile functions twin).mapError CompileError.unplaced := by
            rw [← Node.compile_unplaced, parsed, Node.compile_unplaced]
          change (Node.compile functions expr >>= fun node => pure (ofNode node)).mapError _ =
            (Node.compile functions twin >>= fun node => pure (ofNode node)).mapError _
          exact mapError_bind_congr compiled fun _ => rfl

/-- White space and comments carry no meaning. Wherever tokens may be parted they can be parted by
any filler instead, and the tokens say what a template is. -/
theorem layout_meaningless :
    (∀ source last before after, (lex source).ending = .ok last →
      (lex source).lexemes = before ++ after →
      ∃ front gap back, source.toList = front ++ (gap ++ back) ∧ Trivia back gap ∧
        front.length = endOf 0 before ∧ (front ++ gap).length = startOf source.length after ∧
        ∀ filler other, Filler filler → filler ≠ [] → Refills gap filler other →
          (lex (String.ofList (front ++ (other ++ back)))).outline = (lex source).outline) ∧
    ∀ functions first second, (lex first).outline = (lex second).outline →
      (compile functions first).mapError CompileError.unplaced =
        (compile functions second).mapError CompileError.unplaced :=
  ⟨fun _ _ _ _ => lex_refilled, fun functions _ _ => compile_outline functions⟩

theorem layout_meaningless_comment :
    (lex "f($.a, [])").ending = .ok ⟨1, 11, 10⟩ ∧ Filler "#b\n".toList ∧
    (lex "f($.a#b\n, [])").outline = (lex "f($.a, [])").outline ∧
    (compile [] "f($.a#b\n, [])").mapError CompileError.unplaced =
      (compile [] "f($.a, [])").mapError CompileError.unplaced := by
  have ended : (lex "f($.a, [])").ending = .ok ⟨1, 11, 10⟩ := by cbv
  have split : (lex "f($.a, [])").lexemes =
      (lex "f($.a, [])").lexemes.take 3 ++ (lex "f($.a, [])").lexemes.drop 3 :=
    (List.take_append_drop 3 _).symm
  have line : Filler "#b\n".toList := .comment (by decide : '\n' ∉ ['b']) .nil
  have ends : endOf 0 ((lex "f($.a, [])").lexemes.take 3) = 5 := by cbv
  have begins : startOf "f($.a, [])".length ((lex "f($.a, [])").lexemes.drop 3) = 5 := by cbv
  obtain ⟨front, gap, back, cut, _, frontEnds, backBegins, same⟩ :=
    layout_meaningless.1 _ _ _ _ ended split
  rw [ends] at frontEnds
  rw [begins, List.length_append, frontEnds] at backBegins
  obtain rfl : gap = [] := List.length_eq_zero_iff.mp (by omega)
  change "f($.a".toList ++ ", [])".toList = front ++ back at cut
  obtain ⟨rfl, rfl⟩ := List.append_inj cut frontEnds.symm
  have refilled := same _ _ line (by simp) (.mk rfl (.inl .nil) (.inl .nil))
  exact ⟨ended, line, refilled, layout_meaningless.2 [] _ _ refilled⟩

end Template

end Stencil
