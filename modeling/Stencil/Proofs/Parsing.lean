import Stencil.Proofs.Derivation
import Stencil.Proofs.Outcome
import Stencil.Source.Parser

/-! The parser reads exactly the grammar. Each of its functions is matched with the part of the
grammar that it reads; what it reads is the front of the tokens, whatever stands behind. -/

namespace Stencil.Source

variable {α β : Type}

def Reads (parser : Parser α) (tokens : List Lexeme) (result : α) (rest : List Lexeme) : Prop :=
  ∃ parsed, parser tokens = .ok parsed ∧ parsed.result = result ∧ parsed.rest = rest

def Recognizes (parser : Parser α) (Grammar : List Lexeme → α → Prop) : Prop :=
  ∀ tokens result rest,
    Reads parser tokens result rest ↔ ∃ used, tokens = used ++ rest ∧ Grammar used result

theorem Reads.unique {parser : Parser α} {tokens rest other : List Lexeme} {result another : α}
    (first : Reads parser tokens result rest) (second : Reads parser tokens another other) :
    result = another ∧ rest = other := by
  obtain ⟨parsed, run, rfl, rfl⟩ := first
  obtain ⟨again, rerun, rfl, rfl⟩ := second
  rw [run] at rerun
  cases rerun
  exact ⟨rfl, rfl⟩

@[simp] theorem startsWith_cons (token : Token) (lexeme : Lexeme) (rest : List Lexeme) :
    startsWith token (lexeme :: rest) = decide (lexeme.token = token) := rfl

section

variable (ending : Except LexError Position)

theorem expect_reads (token : Token) (tokens : List Lexeme) (rest : List Lexeme) :
    Reads (expect ending token) tokens () rest ↔
      ∃ lexeme, lexeme.token = token ∧ tokens = lexeme :: rest := by
  constructor
  · rintro ⟨parsed, run, _, rfl⟩
    cases tokens with
    | nil => simp [expect] at run
    | cons lexeme others =>
        simp only [expect] at run
        split at run
        next wanted =>
          cases run
          exact ⟨lexeme, wanted, rfl⟩
        next => cases run
  · rintro ⟨lexeme, wanted, rfl⟩
    exact ⟨⟨(), rest, by simp⟩, by simp [expect, wanted], rfl, rfl⟩

theorem expect_cons {token : Token} {lexeme : Lexeme} (rest : List Lexeme)
    (wanted : lexeme.token = token) :
    expect ending token (lexeme :: rest) = .ok ⟨(), rest, Nat.lt_succ_self _⟩ := by
  simp [expect, wanted]

/-- How a list of items is read: the closing token is looked for before each item and behind it. -/
inductive ReadsList (item : Parser α) (close : Token) (trailingComma : Bool) :
    List Lexeme → List α → List Lexeme → Prop
  | closed {last rest} : last.token = close →
      ReadsList item close trailingComma (last :: rest) [] rest
  | final {tokens first last rest} : startsWith close tokens = false →
      Reads item tokens first (last :: rest) → last.token = close →
      ReadsList item close trailingComma tokens [first] rest
  | more {tokens first comma others items rest} : startsWith close tokens = false →
      Reads item tokens first (comma :: others) → comma.token = .comma → comma.token ≠ close →
      (trailingComma = true ∨ startsWith close others = false) →
      ReadsList item close trailingComma others items rest →
      ReadsList item close trailingComma tokens (first :: items) rest

theorem readsList_of_sequence (item : Parser α) (close : Token) (trailingComma : Bool)
    (tokens : List Lexeme) (items : List α) (rest : List Lexeme)
    (read : Reads (sequence ending item close trailingComma) tokens items rest) :
    ReadsList item close trailingComma tokens items rest := by
  generalize lengthEq : tokens.length = length
  induction length using Nat.strongRecOn generalizing tokens items rest with
  | ind length ih =>
      obtain ⟨parsed, run, rfl, rfl⟩ := read
      rw [sequence] at run
      split at run
      next =>
        obtain ⟨closed, closedRun, same⟩ := bind_eq_ok.mp run
        cases same
        obtain ⟨last, token, cut⟩ := (expect_reads ending _ _ _).mp ⟨closed, closedRun, rfl, rfl⟩
        have whole : ReadsList item close trailingComma (last :: closed.rest) [] closed.rest :=
          .closed token
        rw [← cut] at whole
        exact whole
      next opens =>
        have opens : startsWith close tokens = false := Bool.eq_false_iff.mpr opens
        obtain ⟨first, firstRun, run⟩ := bind_eq_ok.mp run
        have firstRead : Reads item tokens first.result first.rest := ⟨first, firstRun, rfl, rfl⟩
        split at run
        next =>
          obtain ⟨closed, closedRun, same⟩ := bind_eq_ok.mp run
          cases same
          obtain ⟨last, token, cut⟩ := (expect_reads ending _ _ _).mp ⟨closed, closedRun, rfl, rfl⟩
          rw [cut] at firstRead
          exact .final opens firstRead token
        next continues =>
          obtain ⟨comma, commaRun, run⟩ := bind_eq_ok.mp run
          obtain ⟨lexeme, token, cut⟩ :=
            (expect_reads ending _ _ _).mp ⟨comma, commaRun, rfl, rfl⟩
          split at run
          next => cases run
          next allowed =>
            obtain ⟨more, moreRun, same⟩ := bind_eq_ok.mp run
            cases same
            have fewer : comma.rest.length < length :=
              lengthEq ▸ Nat.lt_trans comma.fewer first.fewer
            have later := ih comma.rest.length fewer comma.rest more.result more.rest
              ⟨more, moreRun, rfl, rfl⟩ rfl
            rw [cut] at firstRead continues
            refine .more opens firstRead token (by simpa using continues) ?_ later
            cases trailingComma <;> simp_all

theorem sequence_of_readsList (item : Parser α) (close : Token) (trailingComma : Bool)
    (tokens : List Lexeme) (items : List α) (rest : List Lexeme)
    (read : ReadsList item close trailingComma tokens items rest) :
    Reads (sequence ending item close trailingComma) tokens items rest := by
  induction read with
  | @closed last rest token =>
      obtain ⟨closed, run, _, same⟩ :=
        (expect_reads ending close (last :: rest) rest).mpr ⟨last, token, rfl⟩
      refine ⟨closed.map fun _ => [], ?_, rfl, same⟩
      rw [sequence]
      simp only [startsWith_cons, token, decide_true, if_true, run]
      rfl
  | @final tokens first last rest opens firstRead token =>
      obtain ⟨parsed, run, rfl, cut⟩ := firstRead
      obtain ⟨closed, closedRun, _, same⟩ :=
        (expect_reads ending close parsed.rest rest).mpr ⟨last, token, cut⟩
      refine ⟨parsed.within (closed.map fun _ => [parsed.result]), ?_, rfl, same⟩
      have closes : startsWith close parsed.rest = true := by simp [cut, token]
      rw [sequence]
      simp only [opens, Bool.false_eq_true, if_false, run, bind, Except.bind, closes, if_true,
        closedRun]
      rfl
  | @more tokens first comma others items rest opens firstRead token differs allowed _ ih =>
      obtain ⟨parsed, run, rfl, cut⟩ := firstRead
      obtain ⟨read, commaRun, _, rfl⟩ :=
        (expect_reads ending .comma parsed.rest others).mpr ⟨comma, token, cut⟩
      obtain ⟨more, moreRun, rfl, rfl⟩ := ih
      refine ⟨parsed.within (read.within (more.map (parsed.result :: ·))), ?_, rfl, rfl⟩
      have continues : startsWith close parsed.rest = false := by simpa [cut] using differs
      have fine : (!trailingComma && startsWith close read.rest) = false := by
        rcases allowed with allowed | allowed <;> simp [allowed]
      rw [sequence]
      simp only [opens, Bool.false_eq_true, if_false, run, bind, Except.bind, continues, commaRun,
        fine, moreRun]
      rfl

def Opens (Grammar : List Lexeme → α → Prop) (close : Token) : Prop :=
  ∀ used result rest, Grammar used result → startsWith close (used ++ rest) = false

theorem enclosed_cons {Item : List Lexeme → α → Prop} {close : Token} {trailingComma : Bool}
    {used others rest : List Lexeme} {comma : Lexeme} {first : α} {items : List α}
    (item : Item used first) (token : comma.token = .comma)
    (allowed : trailingComma = true ∨ startsWith close (others ++ rest) = false)
    (enclosed : Enclosed Item close trailingComma others items) :
    Enclosed Item close trailingComma (used ++ comma :: others) (first :: items) := by
  cases enclosed with
  | @empty last closed =>
      rcases allowed with allowed | allowed
      · exact .trailing (.one item) allowed token closed
      · simp [closed] at allowed
  | @items used' last _ separated closed =>
      have longer : Enclosed Item close trailingComma _ _ :=
        .items (.more item token separated) closed
      simpa using longer
  | @trailing used' comma' last _ separated trailing comma closed =>
      have longer : Enclosed Item close trailingComma _ _ :=
        .trailing (.more item token separated) trailing comma closed
      simpa using longer

theorem enclosed_of_readsList {item : Parser α} {Item : List Lexeme → α → Prop}
    (recognized : Recognizes item Item) {close : Token} {trailingComma : Bool}
    {tokens rest : List Lexeme} {items : List α}
    (read : ReadsList item close trailingComma tokens items rest) :
    ∃ used, tokens = used ++ rest ∧ Enclosed Item close trailingComma used items := by
  induction read with
  | @closed last rest token => exact ⟨[last], rfl, .empty token⟩
  | @final tokens first last rest _ firstRead token =>
      obtain ⟨used, rfl, derived⟩ := (recognized _ _ _).mp firstRead
      exact ⟨used ++ [last], by simp, .items (.one derived) token⟩
  | @more tokens first comma others items rest _ firstRead token _ allowed _ ih =>
      obtain ⟨used, rfl, derived⟩ := (recognized _ _ _).mp firstRead
      obtain ⟨later, rfl, enclosed⟩ := ih
      exact ⟨used ++ comma :: later, by simp, enclosed_cons derived token allowed enclosed⟩

theorem separated_opens {Item : List Lexeme → α → Prop} {close : Token} (opens : Opens Item close)
    {used : List Lexeme} {items : List α} (separated : Separated Item used items)
    (rest : List Lexeme) : startsWith close (used ++ rest) = false := by
  cases separated with
  | one first => exact opens _ _ rest first
  | more first _ _ =>
      rw [List.append_assoc]
      exact opens _ _ _ first

theorem readsList_of_separated {item : Parser α} {Item : List Lexeme → α → Prop}
    (recognized : Recognizes item Item) {close : Token} {trailingComma : Bool}
    (opens : Opens Item close) (notComma : close ≠ .comma) {tail rest : List Lexeme}
    (final : ∀ used last, Item used last →
      ReadsList item close trailingComma (used ++ tail) [last] rest)
    {used : List Lexeme} {items : List α} (separated : Separated Item used items) :
    ReadsList item close trailingComma (used ++ tail) items rest := by
  induction separated with
  | one first => exact final _ _ first
  | @more used comma others first items derived token separated ih =>
      have read : Reads item (used ++ comma :: (others ++ tail)) first
          (comma :: (others ++ tail)) := (recognized _ _ _).mpr ⟨used, rfl, derived⟩
      have front := opens _ _ (comma :: (others ++ tail)) derived
      have next := separated_opens opens separated tail
      have differs : comma.token ≠ close := token ▸ notComma.symm
      simpa using ReadsList.more front read token differs (Or.inr next) ih

theorem readsList_of_enclosed {item : Parser α} {Item : List Lexeme → α → Prop}
    (recognized : Recognizes item Item) {close : Token} {trailingComma : Bool}
    (opens : Opens Item close) (notComma : close ≠ .comma) {used : List Lexeme} {items : List α}
    (enclosed : Enclosed Item close trailingComma used items) (rest : List Lexeme) :
    ReadsList item close trailingComma (used ++ rest) items rest := by
  have reads : ∀ used result rest, Item used result → Reads item (used ++ rest) result rest :=
    fun used result rest derived => (recognized _ _ _).mpr ⟨used, rfl, derived⟩
  cases enclosed with
  | empty closed => exact .closed closed
  | @items used last _ separated closed =>
      rw [List.append_assoc]
      apply readsList_of_separated recognized opens notComma ?_ separated
      intro used final derived
      exact .final (opens _ _ _ derived) (reads _ _ _ derived) closed
  | @trailing used comma last _ separated allowed token closed =>
      rw [List.append_assoc]
      apply readsList_of_separated recognized opens notComma ?_ separated
      intro used final derived
      have differs : comma.token ≠ close := token ▸ notComma.symm
      exact .more (opens _ _ _ derived) (reads _ _ _ derived) token differs (Or.inl allowed)
        (.closed closed)

theorem sequence_recognizes {item : Parser α} {Item : List Lexeme → α → Prop}
    (recognized : Recognizes item Item) {close : Token} (trailingComma : Bool)
    (opens : Opens Item close) (notComma : close ≠ .comma) :
    Recognizes (sequence ending item close trailingComma) (Enclosed Item close trailingComma) := by
  intro tokens items rest
  constructor
  · intro read
    exact enclosed_of_readsList recognized (readsList_of_sequence ending _ _ _ _ _ _ read)
  · rintro ⟨used, rfl, enclosed⟩
    exact sequence_of_readsList ending _ _ _ _ _ _
      (readsList_of_enclosed recognized opens notComma enclosed rest)

theorem labelText?_iff (token : Token) (text : String) :
    labelText? token = some text ↔ LabelToken token text := by
  constructor
  · intro label
    cases token with
    | bool b => cases b <;> cases label <;> constructor
    | name _ | range | null => cases label; constructor
    | _ => cases label
  · intro label
    cases label <;> rfl

theorem key_reads (tokens : List Lexeme) (name : String) (rest : List Lexeme) :
    Reads (key ending) tokens name rest ↔
      ∃ lexeme, lexeme.token = .string name ∧ tokens = lexeme :: rest := by
  constructor
  · rintro ⟨parsed, run, rfl, rfl⟩
    cases tokens with
    | nil => cases run
    | cons lexeme others =>
        simp only [key] at run
        split at run
        next token =>
          cases run
          exact ⟨lexeme, token, rfl⟩
        next => cases run
  · rintro ⟨lexeme, token, rfl⟩
    exact ⟨⟨name, rest, by simp⟩, by simp only [key]; rw [token], rfl, rfl⟩

inductive LabelFront : List Lexeme → Option String → List Lexeme → Prop
  | none {tokens} : startsWith .atSign tokens = false → LabelFront tokens none tokens
  | some {mark label text rest} : mark.token = .atSign → LabelToken label.token text →
      LabelFront (mark :: label :: rest) (some text) rest

theorem fieldLabel_reads (tokens : List Lexeme) (label : Option String) (rest : List Lexeme) :
    (∃ shorter, fieldLabel ending tokens = .ok (label, ⟨rest, shorter⟩)) ↔
      LabelFront tokens label rest := by
  constructor
  · rintro ⟨shorter, run⟩
    cases tokens with
    | nil =>
        cases run
        exact .none rfl
    | cons lexeme others =>
        simp only [fieldLabel] at run
        split at run
        next mark =>
          cases others with
          | nil => cases run
          | cons word others =>
              simp only at run
              split at run
              next text found =>
                cases run
                exact .some mark ((labelText?_iff _ _).mp found)
              next => cases run
        next plain =>
          cases run
          exact .none (by simpa using plain)
  · intro front
    cases front with
    | none plain =>
        cases tokens with
        | nil => exact ⟨by simp, rfl⟩
        | cons lexeme others =>
            have plain : lexeme.token ≠ .atSign := by simpa using plain
            exact ⟨by simp, by simp only [fieldLabel, plain, if_false]⟩
    | @some mark word text rest sign found =>
        have found := (labelText?_iff _ _).mpr found
        refine ⟨by simp; omega, ?_⟩
        simp only [fieldLabel, sign, if_true]
        rw [found]

theorem field_reads (value : Parser Expr) (tokens : List Lexeme) (name : String)
    (label : Option String) (expr : Expr) (rest : List Lexeme) :
    Reads (field ending value) tokens (name, ⟨label, expr⟩) rest ↔
      ∃ key colon body, LabelFront tokens label (key :: colon :: body) ∧
        key.token = .string name ∧ colon.token = .colon ∧ Reads value body expr rest := by
  constructor
  · rintro ⟨parsed, run, result, rfl⟩
    obtain ⟨⟨label, start, shorter⟩, front, run⟩ := bind_eq_ok.mp run
    obtain ⟨⟨name, _, _⟩, keyRun, run⟩ := bind_eq_ok.mp run
    obtain ⟨⟨_, body, _⟩, colonRun, run⟩ := bind_eq_ok.mp run
    obtain ⟨content, valueRun, same⟩ := bind_eq_ok.mp run
    cases same
    cases result
    obtain ⟨key, keyToken, keyCut⟩ := (key_reads ending _ _ _).mp ⟨_, keyRun, rfl, rfl⟩
    obtain ⟨colon, colonToken, colonCut⟩ := (expect_reads ending _ _ _).mp ⟨_, colonRun, rfl, rfl⟩
    dsimp only at keyCut colonCut
    subst colonCut keyCut
    have front := (fieldLabel_reads ending _ _ _).mp ⟨shorter, front⟩
    exact ⟨key, colon, body, front, keyToken, colonToken, ⟨content, valueRun, rfl, rfl⟩⟩
  · rintro ⟨key, colon, body, front, keyToken, colonToken, content⟩
    obtain ⟨shorter, front⟩ := (fieldLabel_reads ending _ _ _).mpr front
    obtain ⟨⟨_, _, _⟩, keyRun, rfl, rfl⟩ :=
      (key_reads ending (key :: colon :: body) name _).mpr ⟨key, keyToken, rfl⟩
    obtain ⟨content, valueRun, rfl, rfl⟩ := content
    exact ⟨_, bind_eq_ok.mpr ⟨_, front, bind_eq_ok.mpr ⟨_, keyRun, bind_eq_ok.mpr
      ⟨_, expect_cons ending body colonToken, bind_eq_ok.mpr ⟨content, valueRun, rfl⟩⟩⟩⟩, rfl, rfl⟩

theorem field_recognizes {value : Parser Expr} {Value : List Lexeme → Expr → Prop}
    (recognized : Recognizes value Value) : Recognizes (field ending value) (Field Value) := by
  rintro tokens ⟨name, label, expr⟩ rest
  rw [field_reads]
  constructor
  · rintro ⟨key, colon, body, front, keyToken, colonToken, read⟩
    obtain ⟨used, rfl, derived⟩ := (recognized _ _ _).mp read
    cases front with
    | none => exact ⟨key :: colon :: used, rfl, .plain keyToken colonToken derived⟩
    | @some mark word text _ sign found =>
        exact ⟨mark :: word :: key :: colon :: used, rfl,
          .labelled sign found keyToken colonToken derived⟩
  · rintro ⟨used, rfl, read⟩
    cases read with
    | @plain key colon used _ _ keyToken colonToken derived =>
        have front : startsWith .atSign (key :: colon :: (used ++ rest)) = false := by
          simp [keyToken]
        exact ⟨key, colon, used ++ rest, .none front, keyToken, colonToken,
          (recognized _ _ _).mpr ⟨used, rfl, derived⟩⟩
    | @labelled mark word key colon used text _ _ sign found keyToken colonToken derived =>
        exact ⟨key, colon, used ++ rest, .some sign found, keyToken, colonToken,
          (recognized _ _ _).mpr ⟨used, rfl, derived⟩⟩

theorem generatorBody_reads (value : Parser Expr) (tokens : List Lexeme) (text : String)
    (template : Expr) (rest : List Lexeme) :
    Reads (generatorBody ending value) tokens (text, template) rest ↔
      ∃ range opening body closing, tokens = range :: opening :: body ∧
        range.token = .query text ∧ opening.token = .leftBracket ∧
        Reads value body template (closing :: rest) ∧ closing.token = .rightBracket := by
  constructor
  · rintro ⟨parsed, run, result, rfl⟩
    cases tokens with
    | nil => cases run
    | cons range others =>
        simp only [generatorBody] at run
        split at run
        next query token =>
          obtain ⟨⟨_, body, _⟩, openingRun, run⟩ := bind_eq_ok.mp run
          obtain ⟨content, valueRun, run⟩ := bind_eq_ok.mp run
          obtain ⟨closing, closingRun, same⟩ := bind_eq_ok.mp run
          cases same
          cases result
          obtain ⟨first, firstToken, cut⟩ :=
            (expect_reads ending _ _ _).mp ⟨_, openingRun, rfl, rfl⟩
          obtain ⟨last, lastToken, behind⟩ :=
            (expect_reads ending _ _ _).mp ⟨closing, closingRun, rfl, rfl⟩
          exact ⟨range, first, body, last, congrArg (range :: ·) cut, token, firstToken,
            ⟨content, valueRun, rfl, behind⟩, lastToken⟩
        next => cases run
  · rintro ⟨range, first, body, last, rfl, token, firstToken, read, lastToken⟩
    obtain ⟨⟨_, _, _⟩, valueRun, rfl, rfl⟩ := read
    unfold Reads
    simp only [generatorBody]
    rw [token]
    exact ⟨_, bind_eq_ok.mpr ⟨_, expect_cons ending body firstToken, bind_eq_ok.mpr
      ⟨_, valueRun, bind_eq_ok.mpr ⟨_, expect_cons ending rest lastToken, rfl⟩⟩⟩, rfl, rfl⟩

theorem arguments_reads (value : Parser Expr) (tokens : List Lexeme) (args : List Expr)
    (rest : List Lexeme) :
    Reads (arguments ending value) tokens args rest ↔
      ∃ opening body, opening.token = .leftParen ∧ tokens = opening :: body ∧
        Reads (sequence ending value .rightParen false) body args rest := by
  constructor
  · rintro ⟨parsed, run, rfl, rfl⟩
    obtain ⟨opening, openingRun, run⟩ := bind_eq_ok.mp run
    obtain ⟨read, listRun, same⟩ := bind_eq_ok.mp run
    cases same
    obtain ⟨first, token, cut⟩ := (expect_reads ending _ _ _).mp ⟨opening, openingRun, rfl, rfl⟩
    exact ⟨first, opening.rest, token, cut, ⟨read, listRun, rfl, rfl⟩⟩
  · rintro ⟨first, body, token, rfl, read⟩
    obtain ⟨read, listRun, rfl, rfl⟩ := read
    exact ⟨_, bind_eq_ok.mpr ⟨_, expect_cons ending body token,
      bind_eq_ok.mpr ⟨read, listRun, rfl⟩⟩, rfl, rfl⟩

def DerivesWithin (levels : Nat) (used : List Lexeme) (expr : Expr) : Prop :=
  Derives used expr ∧ expr.depth ≤ levels

theorem enclosed_items {levels : Nat} {close : Token} {trailingComma : Bool}
    {used : List Lexeme} {items : List Expr} :
    Enclosed (DerivesWithin levels) close trailingComma used items ↔
      Enclosed Derives close trailingComma used items ∧ Expr.depthItems items ≤ levels := by
  rw [Expr.depthItems_le]
  exact enclosed_and

theorem enclosed_fields {levels : Nat} {close : Token} {trailingComma : Bool}
    {used : List Lexeme} {fields : List (String × Annotated Expr)} :
    Enclosed (Field (DerivesWithin levels)) close trailingComma used fields ↔
      Enclosed (Field Derives) close trailingComma used fields ∧
        Expr.depthFields fields ≤ levels := by
  have split : Field (DerivesWithin levels) = fun used field =>
      Field Derives used field ∧ field.2.content.depth ≤ levels := by
    funext used field
    exact propext field_and
  rw [Expr.depthFields_le, split]
  exact enclosed_and

theorem derives_opens {levels : Nat} {close : Token} (closing : close = .rightBrace ∨
    close = .rightBracket ∨ close = .rightParen) : Opens (DerivesWithin levels) close := by
  rintro used expr rest ⟨derives, _⟩
  cases derives <;> rcases closing with rfl | rfl | rfl <;> simp [*]

theorem field_opens {levels : Nat} : Opens (Field (DerivesWithin levels)) .rightBrace := by
  intro used field rest read
  cases read <;> simp [*]

theorem nested_reads {levels : Nat} (f : α → Expr) (parse : Parser Expr → Parser α)
    {lexeme : Lexeme} {tokens rest : List Lexeme} {expr : Expr}
    {fewer : rest.length < (lexeme :: tokens).length}
    (run : (match levels with
      | 0 => Except.error (ParseError.tooDeep lexeme.start)
      | deeper + 1 => (parse (value ending deeper) tokens).map (Parsed.behind lexeme f)) =
        .ok ⟨expr, rest, fewer⟩) :
    ∃ deeper result, levels = deeper + 1 ∧ expr = f result ∧
      Reads (parse (value ending deeper)) tokens result rest := by
  cases levels with
  | zero => cases run
  | succ deeper =>
      obtain ⟨inner, innerRun, same⟩ := map_eq_ok.mp run
      cases same
      exact ⟨deeper, inner.result, rfl, rfl, inner, innerRun, rfl, rfl⟩

theorem value_sound {levels : Nat} {tokens rest : List Lexeme} {expr : Expr}
    (inner : ∀ deeper, levels = deeper + 1 →
      Recognizes (value ending deeper) (DerivesWithin deeper))
    (read : Reads (value ending levels) tokens expr rest) :
    ∃ used, tokens = used ++ rest ∧ DerivesWithin levels used expr := by
  obtain ⟨⟨expr, rest, fewer⟩, run, rfl, rfl⟩ := read
  cases tokens with
  | nil => simp [value] at run
  | cons lexeme others =>
      simp only [value] at run
      split at run
      next s token =>
        cases run
        exact ⟨[lexeme], rfl, .string token, Nat.zero_le _⟩
      next x token =>
        cases run
        exact ⟨[lexeme], rfl, .number token, Nat.zero_le _⟩
      next b token =>
        cases run
        exact ⟨[lexeme], rfl, .bool token, Nat.zero_le _⟩
      next token =>
        cases run
        exact ⟨[lexeme], rfl, .null token, Nat.zero_le _⟩
      next text token =>
        cases run
        exact ⟨[lexeme], rfl, .extractor token, Nat.zero_le _⟩
      next token =>
        obtain ⟨deeper, fields, rfl, rfl, read⟩ := nested_reads ending .object
          (fun value => sequence ending (field ending value) .rightBrace true) run
        have items := sequence_recognizes ending (field_recognizes ending (inner deeper rfl))
          true field_opens (by decide)
        obtain ⟨used, rfl, enclosed⟩ := (items _ _ _).mp read
        have parts := enclosed_fields.mp enclosed
        exact ⟨lexeme :: used, rfl, .object token parts.1, Nat.succ_le_succ parts.2⟩
      next token =>
        obtain ⟨deeper, items, rfl, rfl, read⟩ := nested_reads ending .array
          (fun value => sequence ending value .rightBracket true) run
        have listed := sequence_recognizes ending (inner deeper rfl) true
          (derives_opens (Or.inr (Or.inl rfl))) (by decide)
        obtain ⟨used, rfl, enclosed⟩ := (listed _ _ _).mp read
        have parts := enclosed_items.mp enclosed
        exact ⟨lexeme :: used, rfl, .array token parts.1, Nat.succ_le_succ parts.2⟩
      next token =>
        obtain ⟨deeper, ⟨text, template⟩, rfl, rfl, read⟩ := nested_reads ending _ _ run
        obtain ⟨range, opening, body, closing, rfl, query, opens, read, closes⟩ :=
          (generatorBody_reads ending _ _ _ _ _).mp read
        obtain ⟨used, rfl, derives, depth⟩ := (inner deeper rfl _ _ _).mp read
        exact ⟨lexeme :: range :: opening :: (used ++ [closing]), by simp,
          .generator token query opens derives closes, Nat.succ_le_succ depth⟩
      next name token =>
        obtain ⟨deeper, args, rfl, rfl, read⟩ := nested_reads ending _ _ run
        obtain ⟨opening, body, opens, rfl, list⟩ := (arguments_reads ending _ _ _ _).mp read
        have listed := sequence_recognizes ending (inner deeper rfl) false
          (derives_opens (Or.inr (Or.inr rfl))) (by decide)
        obtain ⟨used, rfl, enclosed⟩ := (listed _ _ _).mp list
        have parts := enclosed_items.mp enclosed
        exact ⟨lexeme :: opening :: used, rfl, .call token opens parts.1,
          Nat.succ_le_succ parts.2⟩
      next => cases run

theorem level_left {depth levels : Nat} (bound : depth + 1 ≤ levels) :
    ∃ deeper, levels = deeper + 1 ∧ depth ≤ deeper :=
  ⟨levels - 1, by omega, by omega⟩

theorem value_complete {levels : Nat} {used : List Lexeme} {expr : Expr}
    (inner : ∀ deeper, levels = deeper + 1 →
      Recognizes (value ending deeper) (DerivesWithin deeper))
    (derives : Derives used expr) (depth : expr.depth ≤ levels) (rest : List Lexeme) :
    Reads (value ending levels) (used ++ rest) expr rest := by
  unfold Reads
  cases derives with
  | string token | number token | bool token | null token | extractor token =>
      simp only [List.singleton_append, value]
      rw [token]
      exact ⟨_, rfl, rfl, rfl⟩
  | @object opening body fields token enclosed =>
      obtain ⟨deeper, rfl, shallow⟩ := level_left depth
      have items := sequence_recognizes ending (field_recognizes ending (inner deeper rfl))
        true field_opens (by decide)
      obtain ⟨read, run, rfl, behind⟩ :=
        (items _ _ rest).mpr ⟨body, rfl, enclosed_fields.mpr ⟨enclosed, shallow⟩⟩
      simp only [List.cons_append, value]
      rw [token]
      exact ⟨_, map_eq_ok.mpr ⟨read, run, rfl⟩, rfl, behind⟩
  | @array opening body items token enclosed =>
      obtain ⟨deeper, rfl, shallow⟩ := level_left depth
      have listed := sequence_recognizes ending (inner deeper rfl) true
        (derives_opens (Or.inr (Or.inl rfl))) (by decide)
      obtain ⟨read, run, rfl, behind⟩ :=
        (listed _ _ rest).mpr ⟨body, rfl, enclosed_items.mpr ⟨enclosed, shallow⟩⟩
      simp only [List.cons_append, value]
      rw [token]
      exact ⟨_, map_eq_ok.mpr ⟨read, run, rfl⟩, rfl, behind⟩
  | @generator word range opening used closing text template token query opens derives closes =>
      obtain ⟨deeper, rfl, shallow⟩ := level_left depth
      have templateRead := (inner deeper rfl _ _ (closing :: rest)).mpr
        ⟨used, rfl, derives, shallow⟩
      obtain ⟨read, run, pair, behind⟩ := (generatorBody_reads ending _ _ _ _ rest).mpr
        ⟨range, opening, used ++ closing :: rest, closing, rfl, query, opens, templateRead, closes⟩
      have whole : word :: range :: opening :: (used ++ [closing]) ++ rest =
          word :: range :: opening :: (used ++ closing :: rest) := by simp
      rw [whole]
      simp only [value]
      rw [token]
      refine ⟨_, map_eq_ok.mpr ⟨read, run, rfl⟩, ?_, behind⟩
      simp [Parsed.behind, pair]
  | @call word opening body name args token opens enclosed =>
      obtain ⟨deeper, rfl, shallow⟩ := level_left depth
      have listed := sequence_recognizes ending (inner deeper rfl) false
        (derives_opens (Or.inr (Or.inr rfl))) (by decide)
      have list := (listed _ _ rest).mpr ⟨body, rfl, enclosed_items.mpr ⟨enclosed, shallow⟩⟩
      obtain ⟨read, run, rfl, behind⟩ :=
        (arguments_reads ending _ _ _ rest).mpr ⟨opening, body ++ rest, opens, rfl, list⟩
      simp only [List.cons_append, value]
      rw [token]
      exact ⟨_, map_eq_ok.mpr ⟨read, run, rfl⟩, rfl, behind⟩

theorem value_recognizes (levels : Nat) :
    Recognizes (value ending levels) (DerivesWithin levels) := by
  have step : ∀ levels, (∀ deeper, levels = deeper + 1 →
      Recognizes (value ending deeper) (DerivesWithin deeper)) →
      Recognizes (value ending levels) (DerivesWithin levels) := by
    intro levels inner tokens expr rest
    constructor
    · exact value_sound ending inner
    · rintro ⟨used, rfl, derives, depth⟩
      exact value_complete ending inner derives depth rest
  induction levels with
  | zero => exact step 0 fun deeper impossible => by cases impossible
  | succ levels ih => exact step (levels + 1) fun deeper same => by cases same; exact ih

end

theorem Derives.unique {used : List Lexeme} {expr other : Expr} (first : Derives used expr)
    (second : Derives used other) : expr = other := by
  let levels := max expr.depth other.depth
  have recognized := value_recognizes (.ok .start) levels
  have read := (recognized used expr []).mpr ⟨used, by simp, first, Nat.le_max_left _ _⟩
  have again := (recognized used other []).mpr ⟨used, by simp, second, Nat.le_max_right _ _⟩
  exact (read.unique again).1

theorem lexed_parse_iff (lexed : Lexed) (expr : Expr) :
    lexed.parse = .ok expr ↔ (∃ position, lexed.ending = .ok position) ∧
      Derives lexed.lexemes expr ∧ expr.depth ≤ maxDepth := by
  constructor
  · intro run
    obtain ⟨parsed, valueRun, run⟩ := bind_eq_ok.mp run
    split at run
    next position nothing ended =>
      cases run
      obtain ⟨used, cut, derives⟩ :=
        (value_recognizes lexed.ending maxDepth _ _ _).mp ⟨parsed, valueRun, rfl, rfl⟩
      rw [nothing, List.append_nil] at cut
      exact ⟨⟨position, ended⟩, cut ▸ derives⟩
    next => cases run
  · rintro ⟨⟨position, ended⟩, derives⟩
    obtain ⟨parsed, valueRun, rfl, behind⟩ :=
      (value_recognizes lexed.ending maxDepth lexed.lexemes expr []).mpr
        ⟨lexed.lexemes, by simp, derives⟩
    refine bind_eq_ok.mpr ⟨parsed, valueRun, ?_⟩
    rw [behind, ended]
    rfl

/-- The parser accepts exactly its grammar. A source has a template where its tokens go on to the
end of the source and derive one value in which no construct sits inside 128 others. There is one
such value at most, and it holds each word of the source once and in order. -/
theorem parse_eq_ok_iff (source : String) (expr : Expr) :
    (parse source = .ok expr ↔ (∃ position, (lex source).ending = .ok position) ∧
      Derives (lex source).lexemes expr ∧ expr.depth ≤ 128) ∧
    (∀ other, Derives (lex source).lexemes expr → Derives (lex source).lexemes other →
      expr = other) ∧
    (Derives (lex source).lexemes expr → expr.words = wordsOf (lex source).lexemes) := by
  refine ⟨lexed_parse_iff (lex source) expr, ?_, ?_⟩
  · intro other first second
    exact first.unique second
  · intro derives
    exact derives.wordsOf.symm

end Stencil.Source
