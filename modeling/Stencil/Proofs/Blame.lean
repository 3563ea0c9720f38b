import Stencil.Proofs.Parsing

/-! Where the functions of the parser fail. Each of them fails at the first token that nothing it
reads has in its place: the tokens in front of that one are the beginning of something that it
reads, and nothing that it reads goes on from there with a token of the same variant. -/

namespace Stencil.Source

variable {α : Type}

/-- Tokens that differ at most in what they carry. -/
def Token.SameVariant (token other : Token) : Prop :=
  token.ctorIdx = other.ctorIdx

theorem Token.SameVariant.eq {token other : Token} (same : token.SameVariant other)
    (plain : token.word? = none) : other = token := by
  cases token <;> cases plain <;> cases other <;> first | rfl | cases same

theorem Token.SameVariant.string {token : Token} {text : String}
    (same : token.SameVariant (.string text)) : ∃ other, token = .string other := by
  cases token <;> first | exact ⟨_, rfl⟩ | cases same

theorem Token.SameVariant.query {token : Token} {text : String}
    (same : token.SameVariant (.query text)) : ∃ other, token = .query other := by
  cases token <;> first | exact ⟨_, rfl⟩ | cases same

inductive Token.Opening : Token → Prop
  | leftBrace : Opening .leftBrace
  | leftBracket : Opening .leftBracket
  | range : Opening .range
  | name {text} : Opening (.name text)

theorem Token.SameVariant.opening {token other : Token} (same : token.SameVariant other)
    (opening : token.Opening) : other.Opening := by
  cases opening <;> cases other <;> first | constructor | cases same

/-- Tokens that go on like some others, at least with the variant of the first one. -/
def SameStart : List Lexeme → List Lexeme → Prop
  | [], others => others = []
  | lexeme :: _, others =>
    ∃ other rest, others = other :: rest ∧ lexeme.token.SameVariant other.token

def Spells (Grammar : List Lexeme → α → Prop) (used : List Lexeme) : Prop :=
  ∃ result, Grammar used result

def handy : List Token :=
  [.null, .string "", .query "$", .leftBracket, .leftParen, .rightBracket, .rightBrace, .rightParen,
    .colon]

def Lexeme.of (token : Token) : Lexeme :=
  ⟨token, [], .start⟩

def Completes (Word : List Lexeme → Prop) (before : List Lexeme) : Prop :=
  ∃ more ⊆ handy, Word (before ++ more.map .of)

theorem Completes.of_word {Word : List Lexeme → Prop} {used : List Lexeme} (word : Word used) :
    Completes Word used :=
  ⟨[], List.nil_subset _, by simpa using word⟩

theorem Completes.grow {Word Part : List Lexeme → Prop} {before : List Lexeme}
    (completes : Completes Part before) (grows : ∀ used, Part used → Completes Word used) :
    Completes Word before := by
  obtain ⟨first, handyFirst, word⟩ := completes
  obtain ⟨second, handySecond, whole⟩ := grows _ word
  refine ⟨first ++ second, List.append_subset.mpr ⟨handyFirst, handySecond⟩, ?_⟩
  rwa [List.map_append, ← List.append_assoc]

theorem Completes.behind {Word : List Lexeme → Prop} {front before : List Lexeme}
    (completes : Completes (fun back => Word (front ++ back)) before) :
    Completes Word (front ++ before) := by
  obtain ⟨more, handy, word⟩ := completes
  exact ⟨more, handy, by rwa [List.append_assoc]⟩

structure Foreign (tokens : List Lexeme) (Word : List Lexeme → Prop) : Prop where
  some : ¬Word []
  differs : ∀ lexeme back, Word (lexeme :: back) → ∀ other ∈ tokens.head?,
    ¬other.token.SameVariant lexeme.token

theorem Foreign.nothing (tokens : List Lexeme) : Foreign tokens fun _ => False :=
  ⟨id, fun _ _ => nofun⟩

theorem Foreign.stuck {Word : List Lexeme → Prop} {before behind others used rest : List Lexeme}
    (foreign : Foreign (before ++ behind) Word) (same : SameStart behind others)
    (cut : before ++ others = used ++ rest) : ¬Word used := by
  intro word
  cases used with
  | nil => exact foreign.some word
  | cons lexeme back =>
      cases before with
      | nil =>
          cases behind with
          | nil =>
              cases same
              cases cut
          | cons first _ =>
              obtain ⟨other, _, rfl, variant⟩ := same
              cases cut
              exact foreign.differs _ _ word first rfl variant
      | cons first _ =>
          obtain ⟨rfl, _⟩ := List.cons.inj cut
          exact foreign.differs _ _ word first rfl rfl

theorem Foreign.of_front {tokens : List Lexeme} {Word : List Lexeme → Prop}
    (only : ∀ used, Word used → ∃ lexeme back, used = lexeme :: back ∧
      ∀ other ∈ tokens.head?, ¬other.token.SameVariant lexeme.token) : Foreign tokens Word where
  some word := by
    obtain ⟨_, _, cut, _⟩ := only _ word
    cases cut
  differs lexeme back word := by
    obtain ⟨_, _, cut, differs⟩ := only _ word
    cases cut
    exact differs

theorem Foreign.of_plain {tokens : List Lexeme} {Word : List Lexeme → Prop}
    (only : ∀ used, Word used → ∃ lexeme back, used = lexeme :: back ∧
      lexeme.token.word? = none ∧ startsWith lexeme.token tokens = false) :
    Foreign tokens Word := by
  refine .of_front fun used word => ?_
  obtain ⟨lexeme, back, cut, plain, absent⟩ := only used word
  refine ⟨lexeme, back, cut, fun other head variant => ?_⟩
  cases tokens with
  | nil => cases head
  | cons first rest =>
      cases head
      rw [startsWith_cons, decide_eq_false_iff_not] at absent
      exact absent (Token.SameVariant.eq variant.symm plain)

theorem Foreign.closing {tokens : List Lexeme} {close : Token} (plain : close.word? = none)
    (goesOn : startsWith close tokens = false) :
    Foreign tokens fun used => ∃ last, used = [last] ∧ last.token = close := by
  refine .of_plain ?_
  rintro used ⟨last, rfl, rfl⟩
  exact ⟨last, [], rfl, plain, goesOn⟩

section

variable (ending : Except LexError Position)

/-- An error belongs to the first of the tokens that are left. Without any it belongs to the end of
the source, or to what is no token. -/
inductive Points : ParseError → List Lexeme → Prop
  | lex {error} : ending = .error error → Points (.lex error) []
  | ended {expected position} : ending = .ok position →
      Points (.unexpected expected none position) []
  | token {expected lexeme rest} :
      Points (.unexpected expected (some lexeme.token) lexeme.start) (lexeme :: rest)
  | tooDeep {lexeme rest} : lexeme.token.Opening → Points (.tooDeep lexeme.start) (lexeme :: rest)

theorem unexpected_points (expected : Expectation) (tokens : List Lexeme) :
    Points ending (unexpected ending expected tokens) tokens := by
  cases tokens with
  | nil => cases ending <;> constructor <;> rfl
  | cons lexeme rest => exact .token

theorem unexpected_shallow (expected : Expectation) (tokens : List Lexeme) (position : Position) :
    unexpected ending expected tokens ≠ .tooDeep position := by
  cases tokens <;> cases ending <;> simp [unexpected]

/-- Why reading a word ends with an error in front of some tokens: the tokens up to there begin a
word, and no word goes on with another token of the same variant. Where the nesting is too deep the
next token begins a word that may nest one level deeper. -/
structure Blame (Word Deeper : List Lexeme → Prop) (error : ParseError)
    (before behind : List Lexeme) : Prop where
  points : Points ending error behind
  viable : Completes Word before
  deeper : ∀ position, error = .tooDeep position → Completes Deeper (before ++ behind.take 1)
  stuck : ∀ others, SameStart behind others → ∀ used rest, before ++ others = used ++ rest →
    ¬Word used

def Blamed (Word Deeper : List Lexeme → Prop) (tokens : List Lexeme) (error : ParseError) : Prop :=
  ∃ before behind, tokens = before ++ behind ∧ Blame ending Word Deeper error before behind

variable {ending} {Word Deeper : List Lexeme → Prop} {tokens : List Lexeme} {error : ParseError}

theorem Blamed.here (expected : Expectation) (viable : Completes Word [])
    (foreign : Foreign tokens Word) :
    Blamed ending Word Deeper tokens (unexpected ending expected tokens) :=
  ⟨[], tokens, rfl, {
    points := unexpected_points ending expected tokens
    viable := viable
    deeper := fun position same => absurd same (unexpected_shallow ending expected tokens position)
    stuck := fun _ same _ _ cut => @Foreign.stuck Word [] tokens _ _ _ foreign same cut }⟩

theorem Blamed.start {Part DeeperPart Other : List Lexeme → Prop}
    (blamed : Blamed ending Part DeeperPart tokens error)
    (grows : ∀ used, Part used → Completes Word used)
    (growsDeeper : ∀ used, DeeperPart used → Completes Deeper used)
    (starts : ∀ used, Word used → Other used ∨ ∃ front back, used = front ++ back ∧ Part front)
    (foreign : Foreign tokens Other) : Blamed ending Word Deeper tokens error := by
  obtain ⟨before, behind, rfl, blame⟩ := blamed
  refine ⟨before, behind, rfl, blame.points, blame.viable.grow grows,
    fun position same => (blame.deeper position same).grow growsDeeper, ?_⟩
  intro others same used rest cut word
  rcases starts used word with other | ⟨front, back, rfl, part⟩
  · exact foreign.stuck same cut other
  · rw [List.append_assoc] at cut
    exact blame.stuck others same front (back ++ rest) cut part

theorem Blamed.behind (front : List Lexeme)
    (free : ∀ used more, Word used → Word (used ++ more) → more = [])
    (blamed : Blamed ending (fun back => Word (front ++ back)) (fun back => Deeper (front ++ back))
      tokens error) : Blamed ending Word Deeper (front ++ tokens) error := by
  obtain ⟨before, behind, rfl, blame⟩ := blamed
  refine ⟨front ++ before, behind, by simp, blame.points, blame.viable.behind, ?_, ?_⟩
  · intro position same
    rw [List.append_assoc]
    exact (blame.deeper position same).behind
  · intro others same used rest cut word
    rw [List.append_assoc] at cut
    rcases List.append_eq_append_iff.mp cut with ⟨more, rfl, tail⟩ | ⟨more, rfl, _⟩
    · exact blame.stuck others same more rest tail word
    · -- a word inside the front would be a shorter word of the same beginning
      obtain ⟨_, _, whole⟩ := blame.viable
      rw [List.append_assoc] at whole
      obtain rfl := (List.append_eq_nil_iff.mp (free used _ word whole)).1
      exact blame.stuck others same [] _ rfl (by simpa using word)

end

theorem Recognizes.same {parser : Parser α} {Grammar : List Lexeme → α → Prop}
    (recognized : Recognizes parser Grammar) {used other rest more : List Lexeme} {result again : α}
    (word : Grammar used result) (another : Grammar other again)
    (cut : used ++ rest = other ++ more) : used = other ∧ rest = more := by
  have reads := (recognized _ _ rest).mpr ⟨used, rfl, word⟩
  have readsToo := (recognized _ _ more).mpr ⟨other, rfl, another⟩
  rw [cut] at reads
  obtain ⟨_, rfl⟩ := reads.unique readsToo
  exact ⟨List.append_cancel_right cut, rfl⟩

theorem Recognizes.free {parser : Parser α} {Grammar : List Lexeme → α → Prop}
    (recognized : Recognizes parser Grammar) {used more : List Lexeme}
    (word : Spells Grammar used) (longer : Spells Grammar (used ++ more)) : more = [] := by
  obtain ⟨_, word⟩ := word
  obtain ⟨_, longer⟩ := longer
  exact (recognized.same word longer (List.append_nil _).symm).2

section

variable (ending : Except LexError Position)

/-- A parser of a grammar whose errors are all blamed on a place. The deeper grammar is the same but
for one more level of nesting. -/
structure Blames (parser : Parser α) (Grammar Deeper : List Lexeme → α → Prop) : Prop where
  recognizes : Recognizes parser Grammar
  deepens {used result} : Grammar used result → Deeper used result
  inhabited : Completes (Spells Grammar) []
  blamed {tokens error} : parser tokens = .error error →
    Blamed ending (Spells Grammar) (Spells Deeper) tokens error

variable {ending} {Word Deeper : List Lexeme → Prop} {tokens : List Lexeme} {error : ParseError}

theorem expect_error {token : Token} (failed : expect ending token tokens = .error error) :
    error = unexpected ending (.token token) tokens ∧ startsWith token tokens = false := by
  cases tokens with
  | nil =>
      cases failed
      exact ⟨rfl, rfl⟩
  | cons lexeme rest =>
      simp only [expect] at failed
      split at failed
      next => cases failed
      next other =>
        cases failed
        exact ⟨rfl, by simpa using other⟩

theorem expect_blamed {token : Token} (failed : expect ending token tokens = .error error)
    (plain : token.word? = none) (viable : Completes Word [])
    (only : ∀ used, Word used → ∃ lexeme back, used = lexeme :: back ∧ (lexeme.token = token ∨
      lexeme.token.word? = none ∧ startsWith lexeme.token tokens = false)) :
    Blamed ending Word Deeper tokens error := by
  obtain ⟨rfl, absent⟩ := expect_error failed
  refine .here _ viable (.of_plain fun used word => ?_)
  obtain ⟨lexeme, back, cut, rfl | other⟩ := only used word
  · exact ⟨lexeme, back, cut, plain, absent⟩
  · exact ⟨lexeme, back, cut, other⟩

theorem Separated.ne_nil {Item : List Lexeme → α → Prop} {used : List Lexeme} {items : List α}
    (separated : Separated Item used items) : items ≠ [] := by
  cases separated <;> exact List.cons_ne_nil _ _

def Listed (Item : List Lexeme → α → Prop) (close : Token) (trailingComma : Bool)
    (used : List Lexeme) : Prop :=
  ∃ items ≠ [], Enclosed Item close trailingComma used items

section

variable {item : Parser α} {Item DeeperItem : List Lexeme → α → Prop} {close : Token}
  {trailingComma : Bool}

theorem Listed.starts {used : List Lexeme} (listed : Listed Item close trailingComma used) :
    ∃ front back, used = front ++ back ∧ Spells Item front := by
  obtain ⟨_, some, enclosed⟩ := listed
  cases enclosed with
  | empty _ => exact absurd rfl some
  | items separated _ =>
      cases separated with
      | one first => exact ⟨_, _, rfl, _, first⟩
      | more first _ _ => exact ⟨_, _, List.append_assoc _ _ _, _, first⟩
  | trailing separated _ _ _ =>
      cases separated with
      | one first => exact ⟨_, _, rfl, _, first⟩
      | more first _ _ => exact ⟨_, _, List.append_assoc _ _ _, _, first⟩

theorem Listed.opens (opens : Opens Item close) {used : List Lexeme}
    (listed : Listed Item close trailingComma used) : startsWith close used = false := by
  obtain ⟨front, back, rfl, result, word⟩ := listed.starts
  exact opens _ _ _ word

theorem Listed.single {used : List Lexeme} {result : α} (word : Item used result) {last : Lexeme}
    (closed : last.token = close) : Listed Item close trailingComma (used ++ [last]) :=
  ⟨[result], List.cons_ne_nil _ _, .items (.one word) closed⟩

theorem Listed.behind (recognized : Recognizes item Item) {front used : List Lexeme} {result : α}
    (word : Item front result) (listed : Listed Item close trailingComma (front ++ used)) :
    ∃ lexeme back, used = lexeme :: back ∧ (lexeme.token = close ∨ lexeme.token = .comma ∧
      (Listed Item close trailingComma back ∨
        trailingComma = true ∧ ∃ last, back = [last] ∧ last.token = close)) := by
  obtain ⟨_, some, enclosed⟩ := listed
  generalize whole : front ++ used = tokens at enclosed
  cases enclosed with
  | empty _ => exact absurd rfl some
  | @items _ last _ separated closed =>
      cases separated with
      | one first =>
          obtain ⟨_, rfl⟩ := recognized.same word first whole
          exact ⟨last, [], rfl, Or.inl closed⟩
      | more first comma others =>
          rw [List.append_assoc] at whole
          obtain ⟨_, rfl⟩ := recognized.same word first whole
          exact ⟨_, _, rfl, Or.inr ⟨comma, Or.inl ⟨_, others.ne_nil, .items others closed⟩⟩⟩
  | @trailing _ comma last _ separated allowed token closed =>
      cases separated with
      | one first =>
          obtain ⟨_, rfl⟩ := recognized.same word first whole
          exact ⟨comma, [last], rfl, Or.inr ⟨token, Or.inr ⟨allowed, last, rfl, closed⟩⟩⟩
      | more first between others =>
          rw [List.append_assoc] at whole
          obtain ⟨_, rfl⟩ := recognized.same word first whole
          exact ⟨_, _, rfl, Or.inr ⟨between,
            Or.inl ⟨_, others.ne_nil, .trailing others allowed token closed⟩⟩⟩

theorem Listed.cons (opens : Opens Item close) {used : List Lexeme}
    (listed : Listed Item close trailingComma used) :
    ∃ lexeme back, used = lexeme :: back ∧ lexeme.token ≠ close := by
  obtain ⟨front, back, rfl, result, word⟩ := listed.starts
  have opened := opens front result (.of close :: back) word
  cases front with
  | nil => simp [Lexeme.of] at opened
  | cons lexeme front => exact ⟨lexeme, front ++ back, rfl, by simpa using opened⟩

theorem Listed.behind_comma (recognized : Recognizes item Item) (notComma : close ≠ .comma)
    {front used : List Lexeme} {comma : Lexeme} {result : α} (word : Item front result)
    (token : comma.token = .comma)
    (listed : Listed Item close trailingComma ((front ++ [comma]) ++ used)) :
    Listed Item close trailingComma used ∨
      trailingComma = true ∧ ∃ last, used = [last] ∧ last.token = close := by
  rw [List.append_assoc] at listed
  obtain ⟨_, _, cut, closes | ⟨_, rest⟩⟩ := listed.behind recognized word
  · cases cut
    exact absurd (closes.symm.trans token) notComma
  · cases cut
    exact rest

theorem Listed.free (recognized : Recognizes item Item) (opens : Opens Item close)
    (notComma : close ≠ .comma) {used more : List Lexeme}
    (listed : Listed Item close trailingComma used)
    (longer : Listed Item close trailingComma (used ++ more)) : more = [] := by
  obtain ⟨_, _, enclosed⟩ := listed
  obtain ⟨_, _, longer⟩ := longer
  exact (sequence_recognizes (.ok .start) recognized trailingComma opens notComma).free
    ⟨_, enclosed⟩ ⟨_, longer⟩

theorem Listed.foreign (recognized : Recognizes item Item) (opens : Opens Item close)
    (plain : close.word? = none) (notComma : close ≠ .comma) {front others : List Lexeme}
    {comma : Lexeme} {result : α} (word : Item front result) (token : comma.token = .comma)
    (closes : startsWith close others = true) :
    Foreign others fun used => Listed Item close false ((front ++ [comma]) ++ used) := by
  refine .of_front fun used listed => ?_
  obtain more | ⟨⟨⟩, _⟩ := listed.behind_comma recognized notComma word token
  obtain ⟨lexeme, back, cut, notClose⟩ := more.cons opens
  refine ⟨lexeme, back, cut, fun other head variant => ?_⟩
  cases others with
  | nil => cases head
  | cons first _ =>
      cases head
      have same : other.token = close := by simpa using closes
      exact notClose ((variant.eq (same ▸ plain)).trans same)

theorem Listed.more (opens : Opens Item close) {front used : List Lexeme} {comma : Lexeme}
    {result : α} (word : Item front result) (token : comma.token = .comma)
    (listed : Listed Item close trailingComma used) :
    Listed Item close trailingComma ((front ++ [comma]) ++ used) := by
  have next : trailingComma = true ∨ startsWith close (used ++ []) = false := by
    rw [List.append_nil]
    exact Or.inr (listed.opens opens)
  obtain ⟨items, _, enclosed⟩ := listed
  rw [List.append_assoc]
  exact ⟨result :: items, List.cons_ne_nil _ _, enclosed_cons word token next enclosed⟩

/-- How a list fails: in its first item, in front of a comma, in front of an item that has to follow
a comma, or in the list behind a comma. -/
inductive FailsList (ending : Except LexError Position) (item : Parser α) (close : Token)
    (trailingComma : Bool) (tokens : List Lexeme) (error : ParseError) : Prop
  | first : item tokens = .error error → FailsList ending item close trailingComma tokens error
  | comma {result rest} : Reads item tokens result rest → startsWith close rest = false →
      expect ending .comma rest = .error error →
      FailsList ending item close trailingComma tokens error
  | closed {result comma others} : Reads item tokens result (comma :: others) →
      comma.token = .comma → trailingComma = false → startsWith close others = true →
      error = unexpected ending .value others →
      FailsList ending item close trailingComma tokens error
  | more {result comma others} : Reads item tokens result (comma :: others) →
      comma.token = .comma → sequence ending item close trailingComma others = .error error →
      FailsList ending item close trailingComma tokens error

theorem sequence_error {tokens : List Lexeme} {error : ParseError}
    (failed : sequence ending item close trailingComma tokens = .error error) :
    startsWith close tokens = false ∧
      FailsList ending item close trailingComma tokens error := by
  rw [sequence] at failed
  split at failed
  next closes =>
    rcases bind_eq_error.mp failed with failed | ⟨_, _, ⟨⟩⟩
    rw [(expect_error failed).2] at closes
    cases closes
  next notClosed =>
    refine ⟨Bool.eq_false_iff.mpr notClosed, ?_⟩
    rcases bind_eq_error.mp failed with failed | ⟨first, run, failed⟩
    · exact .first failed
    · have read : Reads item tokens first.result first.rest := ⟨first, run, rfl, rfl⟩
      split at failed
      next closes =>
        rcases bind_eq_error.mp failed with failed | ⟨_, _, ⟨⟩⟩
        rw [(expect_error failed).2] at closes
        cases closes
      next goesOn =>
        rcases bind_eq_error.mp failed with failed | ⟨comma, commaRun, failed⟩
        · exact .comma read (Bool.eq_false_iff.mpr goesOn) failed
        · obtain ⟨lexeme, token, cut⟩ :=
            (expect_reads ending _ _ _).mp ⟨comma, commaRun, rfl, rfl⟩
          rw [cut] at read
          split at failed
          next closes =>
            obtain ⟨fixed, closes⟩ := Bool.and_eq_true_iff.mp closes
            cases failed
            exact .closed read token (by simpa using fixed) closes rfl
          next =>
            rcases bind_eq_error.mp failed with failed | ⟨_, _, ⟨⟩⟩
            exact .more read token failed

theorem sequence_blamed (blames : Blames ending item Item DeeperItem) (opens : Opens Item close)
    (opensDeeper : Opens DeeperItem close) (plain : close.word? = none) (notComma : close ≠ .comma)
    (inHandy : close ∈ handy) {tokens : List Lexeme} {error : ParseError}
    (failed : sequence ending item close trailingComma tokens = .error error) :
    Blamed ending (Listed Item close trailingComma) (Listed DeeperItem close trailingComma) tokens
      error := by
  have closing : [close] ⊆ handy := by simpa using inHandy
  have free : ∀ used more, Listed Item close trailingComma used →
      Listed Item close trailingComma (used ++ more) → more = [] :=
    fun _ _ => Listed.free blames.recognizes opens notComma
  -- the induction is on the tokens: a comma behind the first item leads to a shorter list
  generalize size : tokens.length = length
  induction length using Nat.strongRecOn generalizing tokens error with
  | ind length ih =>
      cases (sequence_error failed).2 with
      | first failed =>
          have grows : ∀ {Item : List Lexeme → α → Prop}, ∀ used, Spells Item used →
              Completes (Listed Item close trailingComma) used :=
            fun used ⟨_, word⟩ => ⟨_, closing, .single word rfl⟩
          exact (blames.blamed failed).start grows grows (fun used listed => Or.inr listed.starts)
            (.nothing _)
      | comma read goesOn missing =>
          obtain ⟨front, rfl, word⟩ := (blames.recognizes _ _ _).mp read
          refine .behind front free (expect_blamed missing rfl ⟨_, closing, .single word rfl⟩ ?_)
          intro used listed
          obtain ⟨lexeme, back, cut, token | ⟨token, _⟩⟩ := listed.behind blames.recognizes word
          · exact ⟨lexeme, back, cut, Or.inr ⟨token ▸ plain, token ▸ goesOn⟩⟩
          · exact ⟨lexeme, back, cut, Or.inl token⟩
      | @closed _ comma others read token fixed closes same =>
          obtain ⟨front, rfl, word⟩ := (blames.recognizes _ _ _).mp read
          subst same fixed
          rw [List.append_cons]
          refine .behind (front ++ [comma]) free (.here _ ?_
            (Listed.foreign blames.recognizes opens plain notComma word token closes))
          refine blames.inhabited.grow ?_
          rintro used ⟨_, second⟩
          exact ⟨_, closing, .more opens word token (.single second rfl)⟩
      | @more _ comma others read token later =>
          obtain ⟨front, rfl, word⟩ := (blames.recognizes _ _ _).mp read
          have fewer : others.length < length := by
            rw [← size, List.length_append, List.length_cons]
            omega
          have goesOn := (sequence_error later).1
          rw [List.append_cons]
          refine .behind (front ++ [comma]) free ((ih _ fewer later rfl).start ?_ ?_ ?_
            (Foreign.closing plain goesOn))
          · exact fun used listed => .of_word (listed.more opens word token)
          · exact fun used listed => .of_word (listed.more opensDeeper (blames.deepens word) token)
          · exact fun used listed =>
              (listed.behind_comma blames.recognizes notComma word token).symm.imp And.right
                fun listed => ⟨used, [], by simp, listed⟩

theorem enclosed_blamed (blames : Blames ending item Item DeeperItem) (opens : Opens Item close)
    (opensDeeper : Opens DeeperItem close) (plain : close.word? = none) (notComma : close ≠ .comma)
    (inHandy : close ∈ handy) {tokens : List Lexeme} {error : ParseError}
    (failed : sequence ending item close trailingComma tokens = .error error) :
    Blamed ending (Spells (Enclosed Item close trailingComma))
      (Spells (Enclosed DeeperItem close trailingComma)) tokens error := by
  have grows : ∀ {Item : List Lexeme → α → Prop}, ∀ used, Listed Item close trailingComma used →
      Completes (Spells (Enclosed Item close trailingComma)) used :=
    fun used ⟨items, _, enclosed⟩ => .of_word ⟨items, enclosed⟩
  refine (sequence_blamed blames opens opensDeeper plain notComma inHandy failed).start grows grows
    ?_ (Foreign.closing plain (sequence_error failed).1)
  rintro used ⟨items, enclosed⟩
  cases items with
  | nil =>
      cases enclosed with
      | empty closes => exact Or.inl ⟨_, rfl, closes⟩
      | items separated _ => exact absurd rfl separated.ne_nil
      | trailing separated _ _ _ => exact absurd rfl separated.ne_nil
  | cons first items =>
      exact Or.inr ⟨used, [], by simp, first :: items, List.cons_ne_nil _ _, enclosed⟩

end

section

variable {item : Parser Expr} {Value DeeperValue : List Lexeme → Expr → Prop}

def Keyed (Value : List Lexeme → Expr → Prop) (used : List Lexeme) : Prop :=
  ∃ key colon body name, used = key :: colon :: body ∧ key.token = .string name ∧
    colon.token = .colon ∧ Spells Value body

theorem Keyed.of_value {key colon : Lexeme} {body : List Lexeme} {name : String} {expr : Expr}
    (token : key.token = .string name) (colonToken : colon.token = .colon)
    (value : Value body expr) : Keyed Value (key :: colon :: body) :=
  ⟨key, colon, body, name, rfl, token, colonToken, expr, value⟩

theorem Keyed.field {used : List Lexeme} (keyed : Keyed Value used) :
    Spells (Field Value) used := by
  obtain ⟨_, _, _, _, rfl, token, colon, _, value⟩ := keyed
  exact ⟨_, .plain token colon value⟩

theorem Keyed.labelled {mark label : Lexeme} {text : String} {used : List Lexeme}
    (keyed : Keyed Value used) (sign : mark.token = .atSign) (found : LabelToken label.token text) :
    Spells (Field Value) ([mark, label] ++ used) := by
  obtain ⟨_, _, _, _, rfl, token, colon, _, value⟩ := keyed
  exact ⟨_, .labelled sign found token colon value⟩

theorem keyed_inhabited (blames : Blames ending item Value DeeperValue) :
    Completes (Keyed Value) [] := by
  obtain ⟨more, inHandy, value⟩ := blames.inhabited
  refine ⟨.string "" :: .colon :: more, ?_, _, _, _, _, rfl, rfl, rfl, value⟩
  exact List.cons_subset.mpr ⟨by decide, List.cons_subset.mpr ⟨by decide, inHandy⟩⟩

theorem key_error {tokens : List Lexeme} {error : ParseError}
    (failed : key ending tokens = .error error) :
    error = unexpected ending .key tokens ∧
      ∀ lexeme ∈ tokens.head?, ∀ name, lexeme.token ≠ .string name := by
  cases tokens with
  | nil =>
      cases failed
      exact ⟨rfl, nofun⟩
  | cons lexeme rest =>
      simp only [key] at failed
      split at failed
      next => cases failed
      next other =>
        cases failed
        refine ⟨rfl, ?_⟩
        rintro _ ⟨⟩
        exact other

inductive FailsKeyed (ending : Except LexError Position) (item : Parser Expr)
    (tokens : List Lexeme) (error : ParseError) : Prop
  | key : key ending tokens = .error error → FailsKeyed ending item tokens error
  | colon {name rest} : Reads (key ending) tokens name rest →
      expect ending .colon rest = .error error → FailsKeyed ending item tokens error
  | value {name rest body} : Reads (key ending) tokens name rest →
      Reads (expect ending .colon) rest () body → item body = .error error →
      FailsKeyed ending item tokens error

theorem keyed_blamed (blames : Blames ending item Value DeeperValue) {tokens : List Lexeme}
    {error : ParseError} (fails : FailsKeyed ending item tokens error) :
    Blamed ending (Keyed Value) (Keyed DeeperValue) tokens error := by
  have free : ∀ used more, Keyed Value used → Keyed Value (used ++ more) → more = [] :=
    fun _ _ keyed longer =>
      (field_recognizes ending blames.recognizes).free keyed.field longer.field
  cases fails with
  | key failed =>
      obtain ⟨rfl, absent⟩ := key_error failed
      refine .here _ (keyed_inhabited blames) (.of_front ?_)
      rintro used ⟨key, colon, body, name, rfl, token, _⟩
      refine ⟨key, colon :: body, rfl, fun other head variant => ?_⟩
      obtain ⟨text, kind⟩ := (token ▸ variant).string
      exact absent other head text kind
  | colon read failed =>
      obtain ⟨key, token, rfl⟩ := (key_reads ending _ _ _).mp read
      refine .behind [key] free (expect_blamed failed rfl ?_ ?_)
      · obtain ⟨more, inHandy, value⟩ := blames.inhabited
        exact ⟨.colon :: more, List.cons_subset.mpr ⟨by decide, inHandy⟩, key, _, _, _, rfl, token,
          rfl, value⟩
      · rintro used ⟨_, colon, body, _, ⟨⟩, _, colonToken, _⟩
        exact ⟨colon, body, rfl, Or.inl colonToken⟩
  | @value name _ _ read readColon failed =>
      obtain ⟨key, token, rfl⟩ := (key_reads ending _ _ _).mp read
      obtain ⟨colon, colonToken, rfl⟩ := (expect_reads ending _ _ _).mp readColon
      have grows : ∀ {Value : List Lexeme → Expr → Prop}, ∀ used, Spells Value used →
          Completes (fun back => Keyed Value ([key, colon] ++ back)) used :=
        fun used value => .of_word ⟨key, colon, used, name, rfl, token, colonToken, value⟩
      refine .behind [key, colon] free ((blames.blamed failed).start grows grows ?_ (.nothing _))
      rintro used ⟨_, _, _, _, ⟨⟩, _, _, value⟩
      exact Or.inr ⟨used, [], by simp, value⟩

inductive FailsField (ending : Except LexError Position) (item : Parser Expr)
    (tokens : List Lexeme) (error : ParseError) : Prop
  | label {mark others} : tokens = mark :: others → mark.token = .atSign →
      (∀ lexeme ∈ others.head?, labelText? lexeme.token = none) →
      error = unexpected ending .label others → FailsField ending item tokens error
  | keyed {label rest} : LabelFront tokens label rest → FailsKeyed ending item rest error →
      FailsField ending item tokens error

theorem fieldLabel_error {tokens : List Lexeme} {error : ParseError}
    (failed : fieldLabel ending tokens = .error error) :
    ∃ mark others, tokens = mark :: others ∧ mark.token = .atSign ∧
      (∀ lexeme ∈ others.head?, labelText? lexeme.token = none) ∧
      error = unexpected ending .label others := by
  cases tokens with
  | nil => cases failed
  | cons mark others =>
      simp only [fieldLabel] at failed
      split at failed
      next sign =>
        cases others with
        | nil =>
            cases failed
            exact ⟨mark, [], rfl, sign, by simp, rfl⟩
        | cons word rest =>
            dsimp only at failed
            split at failed
            next => cases failed
            next unlabelled =>
              cases failed
              refine ⟨mark, word :: rest, rfl, sign, ?_, rfl⟩
              rintro _ ⟨⟩
              exact unlabelled
      next => cases failed

theorem field_error {tokens : List Lexeme} {error : ParseError}
    (failed : field ending item tokens = .error error) : FailsField ending item tokens error := by
  rcases bind_eq_error.mp failed with failed | ⟨⟨label, start, shorter⟩, front, failed⟩
  · obtain ⟨mark, others, cut, sign, unlabelled, same⟩ := fieldLabel_error failed
    exact .label cut sign unlabelled same
  · refine .keyed ((fieldLabel_reads ending _ _ _).mp ⟨shorter, front⟩) ?_
    rcases bind_eq_error.mp failed with failed | ⟨name, run, failed⟩
    · exact .key failed
    · have read : Reads (key ending) start name.result name.rest := ⟨name, run, rfl, rfl⟩
      rcases bind_eq_error.mp failed with failed | ⟨colon, run, failed⟩
      · exact .colon read failed
      · rcases bind_eq_error.mp failed with failed | ⟨_, _, ⟨⟩⟩
        exact .value read ⟨colon, run, rfl, rfl⟩ failed

theorem Field.deepens (blames : Blames ending item Value DeeperValue) {used : List Lexeme}
    {entry : String × Annotated Expr} (read : Field Value used entry) :
    Field DeeperValue used entry := by
  cases read with
  | plain key colon value => exact .plain key colon (blames.deepens value)
  | labelled sign found key colon value =>
      exact .labelled sign found key colon (blames.deepens value)

theorem labelText?_variant {token other : Token} (same : token.SameVariant other)
    (unlabelled : labelText? token = none) : labelText? other = none := by
  cases token <;> cases unlabelled <;> cases other <;> first | rfl | cases same

theorem field_blamed (blames : Blames ending item Value DeeperValue) {tokens : List Lexeme}
    {error : ParseError} (failed : field ending item tokens = .error error) :
    Blamed ending (Spells (Field Value)) (Spells (Field DeeperValue)) tokens error := by
  have free : ∀ used more, Spells (Field Value) used → Spells (Field Value) (used ++ more) →
      more = [] := fun _ _ => (field_recognizes ending blames.recognizes).free
  cases field_error failed with
  | @label mark others cut sign unlabelled same =>
      subst cut same
      refine .behind [mark] free (.here _ ?_ (.of_front ?_))
      · obtain ⟨more, inHandy, keyed⟩ := keyed_inhabited blames
        exact ⟨.null :: more, List.cons_subset.mpr ⟨by decide, inHandy⟩, keyed.labelled sign .null⟩
      · rintro used ⟨_, read⟩
        cases read with
        | plain key _ _ => simp [sign] at key
        | labelled _ found _ _ _ =>
            refine ⟨_, _, rfl, fun other head variant => ?_⟩
            have nothing := labelText?_variant variant (unlabelled other head)
            simp [(labelText?_iff _ _).mpr found] at nothing
  | keyed front fails =>
      have blamed := keyed_blamed blames fails
      cases front with
      | none plain =>
          have foreign : Foreign tokens fun used => ∃ mark back, used = mark :: back ∧
              mark.token = .atSign := by
            refine .of_plain ?_
            rintro used ⟨mark, back, rfl, sign⟩
            exact ⟨mark, back, rfl, by rw [sign]; rfl, sign ▸ plain⟩
          refine blamed.start (fun used keyed => .of_word keyed.field)
            (fun used keyed => .of_word keyed.field) ?_ foreign
          rintro used ⟨_, read⟩
          cases read with
          | plain key colon value => exact Or.inr ⟨_, [], by simp, .of_value key colon value⟩
          | labelled sign _ _ _ _ => exact Or.inl ⟨_, _, rfl, sign⟩
      | @some mark word text rest sign found =>
          refine .behind [mark, word] free (blamed.start
            (fun used keyed => .of_word (keyed.labelled sign found))
            (fun used keyed => .of_word (keyed.labelled sign found)) ?_ (.nothing _))
          rintro used ⟨_, read⟩
          generalize whole : [mark, word] ++ used = tokens at read
          cases read with
          | plain key _ _ =>
              cases whole
              simp [sign] at key
          | labelled _ _ key colon value =>
              cases whole
              exact Or.inr ⟨_, [], by simp, .of_value key colon value⟩

theorem field_blames (blames : Blames ending item Value DeeperValue) :
    Blames ending (field ending item) (Field Value) (Field DeeperValue) where
  recognizes := field_recognizes ending blames.recognizes
  deepens := Field.deepens blames
  inhabited := (keyed_inhabited blames).grow fun _ keyed => .of_word keyed.field
  blamed := field_blamed blames

end

section

variable {opening : Lexeme} {back : List Lexeme} {levels : Nat}

theorem spells_object (token : opening.token = .leftBrace) :
    Spells (DerivesWithin (levels + 1)) (opening :: back) ↔
      Spells (Enclosed (Field (DerivesWithin levels)) .rightBrace true) back := by
  constructor
  · rintro ⟨_, derives, depth⟩
    cases derives with
    | object _ enclosed => exact ⟨_, enclosed_fields.mpr ⟨enclosed, Nat.le_of_succ_le_succ depth⟩⟩
    | _ => simp_all
  · rintro ⟨fields, enclosed⟩
    obtain ⟨enclosed, depth⟩ := enclosed_fields.mp enclosed
    exact ⟨_, .object token enclosed, Nat.succ_le_succ depth⟩

theorem spells_array (token : opening.token = .leftBracket) :
    Spells (DerivesWithin (levels + 1)) (opening :: back) ↔
      Spells (Enclosed (DerivesWithin levels) .rightBracket true) back := by
  constructor
  · rintro ⟨_, derives, depth⟩
    cases derives with
    | array _ enclosed => exact ⟨_, enclosed_items.mpr ⟨enclosed, Nat.le_of_succ_le_succ depth⟩⟩
    | _ => simp_all
  · rintro ⟨items, enclosed⟩
    obtain ⟨enclosed, depth⟩ := enclosed_items.mp enclosed
    exact ⟨_, .array token enclosed, Nat.succ_le_succ depth⟩

def Ranged (Value : List Lexeme → Expr → Prop) (used : List Lexeme) : Prop :=
  ∃ query text opening body closing, used = query :: opening :: (body ++ [closing]) ∧
    query.token = .query text ∧ opening.token = .leftBracket ∧ Spells Value body ∧
    closing.token = .rightBracket

theorem spells_generator (token : opening.token = .range) :
    Spells (DerivesWithin (levels + 1)) (opening :: back) ↔ Ranged (DerivesWithin levels) back := by
  constructor
  · rintro ⟨_, derives, depth⟩
    cases derives with
    | generator _ query opens derives closes =>
        exact ⟨_, _, _, _, _, rfl, query, opens, ⟨_, derives, Nat.le_of_succ_le_succ depth⟩, closes⟩
    | _ => simp_all
  · rintro ⟨_, _, _, _, _, rfl, query, opens, ⟨_, derives, depth⟩, closes⟩
    exact ⟨_, .generator token query opens derives closes, Nat.succ_le_succ depth⟩

def Applied (Value : List Lexeme → Expr → Prop) (used : List Lexeme) : Prop :=
  ∃ opening body, used = opening :: body ∧ opening.token = .leftParen ∧
    Spells (Enclosed Value .rightParen false) body

theorem spells_call {name : String} (token : opening.token = .name name) :
    Spells (DerivesWithin (levels + 1)) (opening :: back) ↔
      Applied (DerivesWithin levels) back := by
  constructor
  · rintro ⟨_, derives, depth⟩
    cases derives with
    | call _ opens enclosed =>
        exact ⟨_, _, rfl, opens, _,
          enclosed_items.mpr ⟨enclosed, Nat.le_of_succ_le_succ depth⟩⟩
    | _ => simp_all
  · rintro ⟨_, _, rfl, opens, _, enclosed⟩
    obtain ⟨enclosed, depth⟩ := enclosed_items.mp enclosed
    exact ⟨_, .call token opens enclosed, Nat.succ_le_succ depth⟩

end

section

variable {item : Parser Expr} {Value DeeperValue : List Lexeme → Expr → Prop}

inductive FailsRange (ending : Except LexError Position) (item : Parser Expr)
    (tokens : List Lexeme) (error : ParseError) : Prop
  | query : (∀ lexeme ∈ tokens.head?, ∀ text, lexeme.token ≠ .query text) →
      error = unexpected ending .generatorQuery tokens → FailsRange ending item tokens error
  | opening {query text rest} : tokens = query :: rest → query.token = .query text →
      expect ending .leftBracket rest = .error error → FailsRange ending item tokens error
  | template {query text opening rest} : tokens = query :: opening :: rest →
      query.token = .query text → opening.token = .leftBracket → item rest = .error error →
      FailsRange ending item tokens error
  | closing {query text opening body template rest} : tokens = query :: opening :: body →
      query.token = .query text → opening.token = .leftBracket →
      Reads item body template rest → expect ending .rightBracket rest = .error error →
      FailsRange ending item tokens error

theorem generatorBody_error {tokens : List Lexeme} {error : ParseError}
    (failed : generatorBody ending item tokens = .error error) :
    FailsRange ending item tokens error := by
  cases tokens with
  | nil =>
      cases failed
      exact .query nofun rfl
  | cons query rest =>
      simp only [generatorBody] at failed
      split at failed
      next text token =>
        rcases bind_eq_error.mp failed with failed | ⟨⟨_, body, _⟩, run, failed⟩
        · exact .opening rfl token failed
        · obtain ⟨opening, opens, cut⟩ := (expect_reads ending _ _ _).mp ⟨_, run, rfl, rfl⟩
          dsimp only at cut failed
          subst cut
          rcases bind_eq_error.mp failed with failed | ⟨template, run, failed⟩
          · exact .template rfl token opens failed
          · rcases bind_eq_error.mp failed with failed | ⟨_, _, ⟨⟩⟩
            exact .closing rfl token opens ⟨template, run, rfl, rfl⟩ failed
      next other =>
        cases failed
        refine .query ?_ rfl
        rintro _ ⟨⟩
        exact other

theorem ranged_blamed (blames : Blames ending item Value DeeperValue)
    (free : ∀ used more, Ranged Value used → Ranged Value (used ++ more) → more = [])
    {tokens : List Lexeme} {error : ParseError}
    (failed : generatorBody ending item tokens = .error error) :
    Blamed ending (Ranged Value) (Ranged DeeperValue) tokens error := by
  obtain ⟨inside, inHandy, value⟩ := blames.inhabited
  have closing : [Token.rightBracket] ⊆ handy := by decide
  have bracketed : Token.leftBracket :: (inside ++ [.rightBracket]) ⊆ handy :=
    List.cons_subset.mpr ⟨by decide, List.append_subset.mpr ⟨inHandy, closing⟩⟩
  cases generatorBody_error failed with
  | query absent same =>
      subst same
      refine .here _ ⟨.query "$" :: .leftBracket :: (inside ++ [.rightBracket]), ?_, ?_⟩
        (.of_front ?_)
      · exact List.cons_subset.mpr ⟨by decide, bracketed⟩
      · exact ⟨.of (.query "$"), "$", .of .leftBracket, inside.map .of, .of .rightBracket,
          by simp, rfl, rfl, value, rfl⟩
      · rintro used ⟨query, _, opening, body, closing, rfl, token, _⟩
        refine ⟨query, opening :: (body ++ [closing]), rfl, fun other head variant => ?_⟩
        obtain ⟨text, kind⟩ := (token ▸ variant).query
        exact absent other head text kind
  | @opening query text rest cut token missing =>
      subst cut
      refine .behind [query] free (expect_blamed missing rfl ?_ ?_)
      · exact ⟨_, bracketed, query, text, .of .leftBracket, inside.map .of, .of .rightBracket,
          by simp, token, rfl, value, rfl⟩
      · rintro used ⟨_, _, opening, _, _, ⟨⟩, _, opens, _⟩
        exact ⟨opening, _, rfl, Or.inl opens⟩
  | @template query text opening rest cut token opens wrong =>
      subst cut
      have grows : ∀ {Value : List Lexeme → Expr → Prop}, ∀ used, Spells Value used →
          Completes (fun back => Ranged Value ([query, opening] ++ back)) used :=
        fun used value =>
          ⟨_, closing, query, text, opening, used, .of .rightBracket, rfl, token, opens, value, rfl⟩
      refine .behind [query, opening] free ((blames.blamed wrong).start grows grows ?_ (.nothing _))
      rintro used ⟨_, _, _, body, _, ⟨⟩, _, _, value, _⟩
      exact Or.inr ⟨body, _, rfl, value⟩
  | @closing query text opening body template rest cut token opens read missing =>
      subst cut
      obtain ⟨front, rfl, word⟩ := (blames.recognizes _ _ _).mp read
      refine .behind (query :: opening :: front) free (expect_blamed missing rfl ?_ ?_)
      · exact ⟨_, closing, query, text, opening, front, .of .rightBracket, by simp, token, opens,
          ⟨_, word⟩, rfl⟩
      · rintro used ⟨_, _, _, body, last, whole, _, _, ⟨_, another⟩, closes⟩
        simp only [List.cons_append, List.cons.injEq] at whole
        obtain ⟨_, rfl⟩ := blames.recognizes.same word another whole.2.2
        exact ⟨last, [], rfl, Or.inl closes⟩

theorem applied_blamed (blames : Blames ending item Value DeeperValue)
    (opens : Opens Value .rightParen) (opensDeeper : Opens DeeperValue .rightParen)
    (free : ∀ used more, Applied Value used → Applied Value (used ++ more) → more = [])
    {tokens : List Lexeme} {error : ParseError}
    (failed : arguments ending item tokens = .error error) :
    Blamed ending (Applied Value) (Applied DeeperValue) tokens error := by
  have closed : Spells (Enclosed Value .rightParen false) [.of .rightParen] := ⟨[], .empty rfl⟩
  rcases bind_eq_error.mp failed with missing | ⟨⟨_, rest, _⟩, run, failed⟩
  · refine expect_blamed missing rfl ⟨[.leftParen, .rightParen], by decide, ?_⟩ ?_
    · exact ⟨.of .leftParen, _, rfl, rfl, closed⟩
    · rintro used ⟨opening, body, rfl, token, _⟩
      exact ⟨opening, body, rfl, Or.inl token⟩
  · obtain ⟨opening, token, cut⟩ := (expect_reads ending _ _ _).mp ⟨_, run, rfl, rfl⟩
    dsimp only at cut failed
    subst cut
    rcases bind_eq_error.mp failed with wrong | ⟨_, _, ⟨⟩⟩
    have inner := enclosed_blamed blames opens opensDeeper rfl (by decide) (by decide) wrong
    have grows : ∀ {Value : List Lexeme → Expr → Prop}, ∀ used,
        Spells (Enclosed Value .rightParen false) used →
          Completes (fun back => Applied Value ([opening] ++ back)) used :=
      fun used enclosed => .of_word ⟨opening, used, rfl, token, enclosed⟩
    refine .behind [opening] free (inner.start grows grows ?_ (.nothing _))
    rintro used ⟨_, _, ⟨⟩, _, enclosed⟩
    exact Or.inr ⟨used, [], by simp, enclosed⟩

end

theorem derives_cons {used : List Lexeme} {expr : Expr} (derives : Derives used expr) :
    ∃ lexeme back, used = lexeme :: back := by
  cases derives <;> exact ⟨_, _, rfl⟩

theorem value_inhabited (levels : Nat) : Completes (Spells (DerivesWithin levels)) [] :=
  ⟨[.null], by decide, _, .null rfl, Nat.zero_le _⟩

theorem value_foreign {tokens : List Lexeme} (levels : Nat)
    (front : ∀ lexeme ∈ tokens.head?, lexeme.token.word? = none ∧ lexeme.token ≠ .leftBrace ∧
      lexeme.token ≠ .leftBracket) : Foreign tokens (Spells (DerivesWithin levels)) where
  some := by
    rintro ⟨_, derives, _⟩
    obtain ⟨_, _, ⟨⟩⟩ := derives_cons derives
  differs := by
    rintro first back ⟨_, derives, _⟩ other head variant
    obtain ⟨plain, noBrace, noBracket⟩ := front other head
    have same := variant.eq plain
    rw [← same] at plain noBrace noBracket
    cases derives with
    | object kind _ => exact noBrace kind
    | array kind _ => exact noBracket kind
    | string kind | number kind | bool kind | null kind | extractor kind
    | generator kind _ _ _ _ | call kind _ _ =>
        rw [kind] at plain
        cases plain

theorem opening_deep {opening : Lexeme} {back : List Lexeme} {expr : Expr}
    (token : opening.token.Opening) (derives : Derives (opening :: back) expr) :
    0 < expr.depth := by
  cases derives with
  | object _ _ | array _ _ | generator _ _ _ _ _ | call _ _ _ => exact Nat.succ_pos _
  | string kind | number kind | bool kind | null kind | extractor kind =>
      rw [kind] at token
      cases token

theorem nested_blamed {levels : Nat} {opening : Lexeme} {rest : List Lexeme} {error : ParseError}
    {Inner : Nat → List Lexeme → Prop} (token : opening.token.Opening) (f : α → Expr)
    (parse : Parser Expr → Parser α)
    (spells : ∀ {levels back}, Spells (DerivesWithin (levels + 1)) (opening :: back) ↔
      Inner levels back)
    (fills : Completes (Inner 0) [])
    (inner : ∀ deeper, levels = deeper + 1 → ∀ error,
      parse (value ending deeper) rest = .error error →
        Blamed ending (Inner deeper) (Inner (deeper + 1)) rest error)
    (failed : (match levels with
      | 0 => Except.error (ParseError.tooDeep opening.start)
      | deeper + 1 => (parse (value ending deeper) rest).map (Parsed.behind opening f)) =
        .error error) :
    Blamed ending (Spells (DerivesWithin levels)) (Spells (DerivesWithin (levels + 1)))
      (opening :: rest) error := by
  cases levels with
  | zero =>
      cases failed
      refine ⟨[], opening :: rest, rfl, .tooDeep token, value_inhabited 0, ?_, ?_⟩
      · intro _ _
        obtain ⟨more, inHandy, word⟩ := fills
        exact ⟨more, inHandy, spells.mpr word⟩
      · rintro _ ⟨other, more, rfl, variant⟩ used back cut ⟨expr, derives, depth⟩
        obtain ⟨lexeme, word, rfl⟩ := derives_cons derives
        cases cut
        have deep := opening_deep (variant.opening token) derives
        omega
  | succ deeper =>
      have blamed := inner deeper rfl error (map_eq_error.mp failed)
      refine .behind [opening] (fun _ _ => (value_recognizes ending (deeper + 1)).free) ?_
      exact blamed.start (fun used word => .of_word (spells.mpr word))
        (fun used word => .of_word (spells.mpr word))
        (fun used word => Or.inr ⟨used, [], by simp, spells.mp word⟩) (.nothing _)

theorem value_blamed {levels : Nat} (inner : ∀ deeper, levels = deeper + 1 →
      Blames ending (value ending deeper) (DerivesWithin deeper) (DerivesWithin (deeper + 1)))
    {tokens : List Lexeme} {error : ParseError}
    (failed : value ending levels tokens = .error error) :
    Blamed ending (Spells (DerivesWithin levels)) (Spells (DerivesWithin (levels + 1))) tokens
      error := by
  cases tokens with
  | nil =>
      simp only [value] at failed
      cases failed
      exact .here _ (value_inhabited levels) (value_foreign levels (by simp))
  | cons lexeme rest =>
      simp only [value] at failed
      cases kind : lexeme.token with
      | string _ | number _ | bool _ | null | query _ =>
          rw [kind] at failed
          cases failed
      | leftBrace =>
          rw [kind] at failed
          refine nested_blamed (kind ▸ .leftBrace) .object
            (fun value => sequence ending (field ending value) .rightBrace true)
            (spells_object kind) ⟨[.rightBrace], by decide, [], .empty rfl⟩ ?_ failed
          intro deeper left error failed
          exact enclosed_blamed (field_blames (inner deeper left)) field_opens field_opens rfl
            (by decide) (by decide) failed
      | leftBracket =>
          rw [kind] at failed
          have opens : ∀ {levels}, Opens (DerivesWithin levels) .rightBracket :=
            derives_opens (Or.inr (Or.inl rfl))
          refine nested_blamed (kind ▸ .leftBracket) .array
            (fun value => sequence ending value .rightBracket true)
            (spells_array kind) ⟨[.rightBracket], by decide, [], .empty rfl⟩ ?_ failed
          intro deeper left error failed
          exact enclosed_blamed (inner deeper left) opens opens rfl (by decide) (by decide) failed
      | range =>
          rw [kind] at failed
          refine nested_blamed (kind ▸ .range) _ (generatorBody ending) (spells_generator kind)
            ⟨[.query "$", .leftBracket, .null, .rightBracket], by decide, ?_⟩ ?_ failed
          · exact ⟨_, _, _, [.of .null], _, rfl, rfl, rfl, ⟨_, .null rfl, Nat.zero_le _⟩, rfl⟩
          · intro deeper left error failed
            refine ranged_blamed (inner deeper left) ?_ failed
            intro _ _ ranged longer
            exact (value_recognizes ending (deeper + 1)).free ((spells_generator kind).mpr ranged)
              ((spells_generator kind).mpr longer)
      | name text =>
          rw [kind] at failed
          have opens : ∀ {levels}, Opens (DerivesWithin levels) .rightParen :=
            derives_opens (Or.inr (Or.inr rfl))
          refine nested_blamed (kind ▸ .name) _ (arguments ending) (spells_call kind)
            ⟨[.leftParen, .rightParen], by decide, _, _, rfl, rfl, [], .empty rfl⟩ ?_ failed
          intro deeper left error failed
          refine applied_blamed (inner deeper left) opens opens ?_ failed
          intro _ _ applied longer
          exact (value_recognizes ending (deeper + 1)).free ((spells_call kind).mpr applied)
            ((spells_call kind).mpr longer)
      | _ =>
          rw [kind] at failed
          cases failed
          refine .here _ (value_inhabited levels) (value_foreign levels ?_)
          rintro _ ⟨⟩
          rw [kind]
          simp [Token.word?]

theorem value_blames (levels : Nat) :
    Blames ending (value ending levels) (DerivesWithin levels) (DerivesWithin (levels + 1)) := by
  have step : ∀ levels, (∀ deeper, levels = deeper + 1 → Blames ending (value ending deeper)
      (DerivesWithin deeper) (DerivesWithin (deeper + 1))) →
      Blames ending (value ending levels) (DerivesWithin levels) (DerivesWithin (levels + 1)) :=
    fun levels inner => {
      recognizes := value_recognizes ending levels
      deepens := fun word => ⟨word.1, Nat.le_succ_of_le word.2⟩
      inhabited := value_inhabited levels
      blamed := value_blamed inner }
  induction levels with
  | zero => exact step 0 fun deeper impossible => by cases impossible
  | succ levels ih => exact step (levels + 1) fun deeper same => by cases same; exact ih

end

end Stencil.Source
