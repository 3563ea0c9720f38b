import Stencil.Proofs.Outcome
import Stencil.Proofs.Scanning

/-! Tokens lie in a source one behind the other, with nothing but white space and comments between
them, and the scanner comes to an end. -/

namespace Stencil.Source

/-- White space and comments in front of other text. A comment runs from a hash sign to the end of
its line. -/
inductive Trivia (behind : List Char) : List Char → Prop
  | nil : Trivia behind []
  | space {c gap} : Unicode.isWhiteSpace c = true → Trivia behind gap → Trivia behind (c :: gap)
  | comment {body gap} : '\n' ∉ body → (∀ c, (gap ++ behind).head? = some c → c = '\n') →
      Trivia behind gap → Trivia behind ('#' :: (body ++ gap))

theorem triviaLength_hash (rest : List Char) :
    triviaLength false ('#' :: rest) = triviaLength true rest + 1 := by
  simp [triviaLength]

theorem triviaLength_space {c : Char} (rest : List Char) (noHash : c ≠ '#')
    (space : Unicode.isWhiteSpace c = true) :
    triviaLength false (c :: rest) = triviaLength false rest + 1 := by
  simp [triviaLength, noHash, space]

theorem triviaLength_comment {c : Char} (rest : List Char) (inLine : c ≠ '\n') :
    triviaLength true (c :: rest) = triviaLength true rest + 1 := by
  have goesOn : (c != '\n') = true := by simpa using inLine
  simp [triviaLength, goesOn]

theorem trivia_take (source : List Char) :
    Trivia (source.drop (triviaLength false source)) (source.take (triviaLength false source)) ∧
    ∃ body gap, source.take (triviaLength true source) = body ++ gap ∧ '\n' ∉ body ∧
      (∀ c, (gap ++ source.drop (triviaLength true source)).head? = some c → c = '\n') ∧
      Trivia (source.drop (triviaLength true source)) gap := by
  -- a hash sign leads into a comment and a newline out of it, so both states go together
  induction source with
  | nil => exact ⟨.nil, [], [], rfl, List.not_mem_nil, by simp [triviaLength], .nil⟩
  | cons c rest ih =>
      obtain ⟨outside, body, gap, cut, inLine, ends, later⟩ := ih
      constructor
      · by_cases hash : c = '#'
        · subst hash
          rw [triviaLength_hash, List.take_succ_cons, List.drop_succ_cons, cut]
          exact .comment inLine ends later
        · by_cases space : Unicode.isWhiteSpace c = true
          · rw [triviaLength_space rest hash space, List.take_succ_cons, List.drop_succ_cons]
            exact .space space outside
          · have nothing : triviaLength false (c :: rest) = 0 := by
              simp [triviaLength, hash, space]
            rw [nothing]
            exact .nil
      · by_cases newline : c = '\n'
        · subst newline
          refine ⟨[], '\n' :: rest.take (triviaLength false rest), rfl, List.not_mem_nil, ?_, ?_⟩
          · simp
          · exact .space (by decide +kernel) outside
        · rw [triviaLength_comment rest newline, List.take_succ_cons, List.drop_succ_cons]
          refine ⟨c :: body, gap, by rw [cut, List.cons_append], ?_, ends, later⟩
          simp [Ne.symm newline, inLine]

/-- What a token keeps of the text it was read from. -/
def Token.Keeps : Token → List Char → Prop
  | .query payload, text => payload.toList = text
  | .name payload, text => payload.toList = text
  | .number x, text => Number.ofText? text = some x ∧ x.isFinite = true
  | _, _ => True

theorem keyword_keeps (text : List Char) : (keyword (String.ofList text)).Keeps text := by
  unfold keyword
  split
  · trivial
  · split
    · trivial
    · split
      · trivial
      · split
        · trivial
        · exact String.toList_ofList

theorem punctuation?_keeps {c : Char} {token : Token} (text : List Char)
    (found : punctuation? c = some token) : token.Keeps text := by
  unfold punctuation? at found
  split at found <;> cases found <;> trivial

theorem isPrefix_append_drop {first second text : List Char} (front : first <+: text)
    (back : second <+: text.drop first.length) : first ++ second <+: text := by
  obtain ⟨rest, rfl⟩ := front
  rw [List.drop_left] at back
  exact (List.prefix_append_right_inj first).mpr back

theorem minusText_front (text : List Char) : minusText text <+: text := by
  unfold minusText
  split <;> simp

theorem signText_front (text : List Char) : signText text <+: text := by
  unfold signText
  split <;> simp

theorem fractionText_front (text : List Char) : fractionText text <+: text := by
  unfold fractionText
  split
  · split
    · simp [List.takeWhile_prefix]
    · exact List.nil_prefix
  · exact List.nil_prefix

theorem exponentText_front (text : List Char) : exponentText text <+: text := by
  cases text with
  | nil => exact List.nil_prefix
  | cons mark rest =>
      simp only [exponentText]
      split
      · split
        · exact List.nil_prefix
        · rw [List.cons_prefix_cons]
          exact ⟨rfl, isPrefix_append_drop (signText_front rest) (List.takeWhile_prefix _)⟩
      · exact List.nil_prefix

theorem numberText_front (text : List Char) : numberText text <+: text := by
  have integer := isPrefix_append_drop (minusText_front text)
    (List.takeWhile_prefix Char.isDigit)
  have decimal := isPrefix_append_drop integer (fractionText_front _)
  exact isPrefix_append_drop decimal (exponentText_front _)

theorem scanNumber_keeps {text : List Char} {token : Token} {length : Nat}
    (scanned : scanNumber text = .ok (token, length)) :
    token.Keeps (text.take (length + 1)) := by
  simp only [scanNumber] at scanned
  split at scanned
  next => cases scanned
  next x read =>
    split at scanned
    next finite =>
      cases scanned
      have some : (numberText text).length ≠ 0 := by
        intro nothing
        rw [List.length_eq_zero_iff.mp nothing] at read
        cases read
      have whole : text.take (numberText text).length = numberText text :=
        (List.prefix_iff_eq_take.mp (numberText_front text)).symm
      rw [Nat.sub_add_cancel (Nat.pos_of_ne_zero some), whole]
      exact ⟨read, finite⟩
    next => cases scanned

inductive Scanned (c : Char) (rest : List Char) : Token → Nat → Prop
  | mark {token} : punctuation? c = some token → Scanned c rest token 0
  | query {token length} : c = '$' → scanQuery rest = .ok (token, length) →
      Scanned c rest token length
  | string {content length} : c = '"' → scanString 1 rest = .ok (content, length) →
      Scanned c rest (.string (String.ofList content)) length
  | number {token length} : startsNumber c rest = true →
      scanNumber (c :: rest) = .ok (token, length) → Scanned c rest token length
  | name : Scanned c rest (scanName c rest).1 (scanName c rest).2

theorem scan_scanned {c : Char} {rest : List Char} {token : Token} {length : Nat}
    (scanned : scan c rest = .ok (token, length)) : Scanned c rest token length := by
  unfold scan at scanned
  split at scanned
  next found =>
    cases scanned
    exact .mark found
  next =>
    split at scanned
    next dollar => exact .query dollar scanned
    next =>
      split at scanned
      next quote =>
        obtain ⟨⟨content, length⟩, run, same⟩ := map_eq_ok.mp scanned
        cases same
        exact .string quote run
      next =>
        split at scanned
        next starts => exact .number starts scanned
        next =>
          split at scanned
          next =>
            cases scanned
            exact .name
          next => cases scanned

theorem scanQuery_eq_ok {rest : List Char} {token : Token} {length : Nat}
    (scanned : scanQuery rest = .ok (token, length)) :
    token = .query (String.ofList ('$' :: rest.take length)) := by
  unfold scanQuery at scanned
  split at scanned
  · cases scanned
    rfl
  · cases scanned

theorem scanName_text (c : Char) (rest : List Char) :
    (scanName c rest).1 = keyword (String.ofList (c :: rest.take (scanName c rest).2)) := by
  have whole := List.prefix_iff_eq_take.mp (rest.takeWhile_prefix isNameCharacter)
  simp only [scanName, ← whole]

theorem scan_keeps {c : Char} {rest : List Char} {token : Token} {length : Nat}
    (scanned : scan c rest = .ok (token, length)) : token.Keeps (c :: rest.take length) := by
  cases scan_scanned scanned with
  | mark found => exact punctuation?_keeps _ found
  | query dollar run =>
      rw [scanQuery_eq_ok run, dollar]
      exact String.toList_ofList
  | string _ _ => trivial
  | number _ run => exact scanNumber_keeps run
  | name =>
      rw [scanName_text]
      exact keyword_keeps _

structure Cursor where
  position : Position
  unread : List Char

namespace Cursor

def next (cursor : Cursor) : Except LexError (Option Lexeme × Cursor) :=
  let length := triviaLength false cursor.unread
  let start := cursor.position.after (cursor.unread.take length)
  match cursor.unread.drop length with
  | [] => .ok (none, ⟨start, []⟩)
  | c :: rest =>
    match scan c rest with
    | .error fault => .error ⟨fault.cause, start.after ((c :: rest).take fault.offset)⟩
    | .ok (token, length) =>
      let text := c :: rest.take length
      .ok (some ⟨token, text, start⟩, ⟨start.after text, rest.drop length⟩)

def call : Nat → Cursor → Except LexError (Option Lexeme × Cursor)
  | 0, cursor => cursor.next
  | count + 1, cursor => do
    let (_, behind) ← cursor.next
    call count behind

/-- What a call does with the text: it skips trivia and takes what it gives, but at the end of the
source. -/
inductive Moves (cursor : Cursor) : Except LexError (Option Lexeme × Cursor) → Prop
  | finished : Trivia [] cursor.unread →
      Moves cursor (.ok (none, ⟨cursor.position.after cursor.unread, []⟩))
  | failed {gap rest error} : cursor.unread = gap ++ rest → Trivia rest gap → rest ≠ [] →
      Moves cursor (.error error)
  | token {gap lexeme rest} : cursor.unread = gap ++ (lexeme.text ++ rest) →
      Trivia (lexeme.text ++ rest) gap → lexeme.start = cursor.position.after gap →
      lexeme.text ≠ [] → lexeme.token.Keeps lexeme.text →
      Moves cursor (.ok (some lexeme, ⟨lexeme.start.after lexeme.text, rest⟩))

theorem next_moves (cursor : Cursor) : cursor.Moves cursor.next := by
  obtain ⟨trivia, _⟩ := trivia_take cursor.unread
  have cut := List.take_append_drop (triviaLength false cursor.unread) cursor.unread
  unfold next
  dsimp only
  generalize cursor.unread.take (triviaLength false cursor.unread) = gap at trivia cut ⊢
  generalize cursor.unread.drop (triviaLength false cursor.unread) = visible at trivia cut ⊢
  cases visible with
  | nil =>
      rw [List.append_nil] at cut
      subst cut
      exact .finished trivia
  | cons c rest =>
      dsimp only
      cases scanned : scan c rest with
      | error fault => exact .failed cut.symm trivia (List.cons_ne_nil c rest)
      | ok found =>
          obtain ⟨token, length⟩ := found
          have whole : c :: rest = (c :: rest.take length) ++ rest.drop length := by simp
          rw [whole] at cut trivia
          let lexeme : Lexeme := ⟨token, c :: rest.take length, cursor.position.after gap⟩
          have moves : cursor.Moves
              (.ok (some lexeme, ⟨lexeme.start.after lexeme.text, rest.drop length⟩)) :=
            .token cut.symm trivia rfl (List.cons_ne_nil _ _) (scan_keeps scanned)
          exact moves

theorem moves_of_next {cursor : Cursor} {outcome : Except LexError (Option Lexeme × Cursor)}
    (next : cursor.next = outcome) : cursor.Moves outcome :=
  next ▸ cursor.next_moves

theorem next_shorter {cursor behind : Cursor} {lexeme : Lexeme}
    (next : cursor.next = .ok (some lexeme, behind)) :
    behind.unread.length < cursor.unread.length := by
  cases moves_of_next next with
  | token cut _ _ some _ =>
      have positive := List.length_pos_iff.mpr some
      rw [cut, List.length_append, List.length_append]
      dsimp only
      omega

theorem lexFrom_next (cursor : Cursor) :
    lexFrom cursor.position cursor.unread = match cursor.next with
      | .error error => ⟨[], .error error⟩
      | .ok (none, behind) => ⟨[], .ok behind.position⟩
      | .ok (some lexeme, behind) => (lexFrom behind.position behind.unread).behind [lexeme] := by
  rw [lexFrom_eq]
  unfold next lexAt
  dsimp only
  cases cursor.unread.drop (triviaLength false cursor.unread) with
  | nil => rfl
  | cons c rest =>
      dsimp only
      cases scan c rest <;> rfl

theorem lexFrom_induction (Holds : Cursor → Lexed → Prop)
    (finished : ∀ cursor behind, cursor.next = .ok (none, behind) →
      Holds cursor ⟨[], .ok behind.position⟩)
    (failed : ∀ cursor error, cursor.next = .error error → Holds cursor ⟨[], .error error⟩)
    (token : ∀ cursor lexeme behind later, cursor.next = .ok (some lexeme, behind) →
      Holds behind later → Holds cursor (later.behind [lexeme]))
    (cursor : Cursor) : Holds cursor (lexFrom cursor.position cursor.unread) := by
  generalize size : cursor.unread.length = length
  induction length using Nat.strongRecOn generalizing cursor with
  | ind length ih =>
      rw [lexFrom_next]
      split
      next error next => exact failed cursor error next
      next behind next => exact finished cursor behind next
      next lexeme behind next =>
        have later := ih _ (size ▸ next_shorter next) behind rfl
        exact token cursor lexeme behind _ next later

theorem call_finished (position : Position) (count : Nat) :
    call count ⟨position, []⟩ = .ok (none, ⟨position, []⟩) := by
  induction count with
  | zero => rfl
  | succ count ih => exact bind_eq_ok.mpr ⟨_, rfl, ih⟩

end Cursor

def Lexeme.Covers (lexeme : Lexeme) (offset : Nat) : Prop :=
  lexeme.start.offset ≤ offset ∧ offset < lexeme.start.offset + lexeme.text.length

/-- How tokens make up a source: trivia in front of each of them, and in front of the end or of what
is no token. -/
inductive Tiles : Position → List Char → Lexed → Prop
  | finished {start gap} : Trivia [] gap → Tiles start gap ⟨[], .ok (start.after gap)⟩
  | failed {start gap rest error} : Trivia rest gap → rest ≠ [] →
      Tiles start (gap ++ rest) ⟨[], .error error⟩
  | token {start gap lexeme rest later} : Trivia (lexeme.text ++ rest) gap →
      lexeme.start = start.after gap → lexeme.text ≠ [] → lexeme.token.Keeps lexeme.text →
      Tiles (lexeme.start.after lexeme.text) rest later →
      Tiles start (gap ++ (lexeme.text ++ rest)) (later.behind [lexeme])

theorem lexFrom_tiles (cursor : Cursor) :
    Tiles cursor.position cursor.unread (lexFrom cursor.position cursor.unread) := by
  refine Cursor.lexFrom_induction (fun cursor => Tiles cursor.position cursor.unread)
    ?_ ?_ ?_ cursor
  · intro cursor behind next
    cases Cursor.moves_of_next next with
    | finished trivia => exact .finished trivia
  · intro cursor error next
    cases Cursor.moves_of_next next with
    | failed cut trivia visible =>
        rw [cut]
        exact .failed trivia visible
  · intro cursor lexeme behind later next tiles
    cases Cursor.moves_of_next next with
    | token cut trivia starts some keeps =>
        rw [cut]
        exact .token trivia starts some keeps tiles

namespace Tiles

variable {start : Position} {source : List Char} {lexed : Lexed}

theorem covers (tiles : Tiles start source lexed) : ∀ lexeme ∈ lexed.lexemes,
    lexeme.text ≠ [] ∧ lexeme.token.Keeps lexeme.text ∧
      ∃ before behind, source = before ++ (lexeme.text ++ behind) ∧
        lexeme.start = start.after before := by
  induction tiles with
  | finished _ =>
      intro lexeme member
      cases member
  | failed _ _ =>
      intro lexeme member
      cases member
  | @token start gap lexeme rest later _ starts some keeps _ ih =>
      intro other member
      rcases List.mem_cons.mp member with rfl | member
      · exact ⟨some, keeps, gap, rest, rfl, starts⟩
      · obtain ⟨someOther, keepsOther, before, behind, cut, startsOther⟩ := ih other member
        refine ⟨someOther, keepsOther, gap ++ (lexeme.text ++ before), behind, by simp [cut], ?_⟩
        rw [startsOther, starts, Position.after_append, Position.after_append]

theorem ordered (tiles : Tiles start source lexed) :
    lexed.lexemes.Pairwise fun first second =>
      first.start.offset + first.text.length ≤ second.start.offset := by
  induction tiles with
  | finished _ => exact .nil
  | failed _ _ => exact .nil
  | @token start gap lexeme rest later _ _ _ _ tiles ih =>
      refine .cons ?_ ih
      intro other member
      obtain ⟨_, _, before, _, _, starts⟩ := tiles.covers other member
      rw [starts, Position.offset_after, Position.offset_after]
      omega

theorem length_le (tiles : Tiles start source lexed) : lexed.lexemes.length ≤ source.length := by
  induction tiles with
  | finished _ => simp
  | failed _ _ => simp
  | @token start gap lexeme rest later _ _ some _ _ ih =>
      have positive := List.length_pos_iff.mpr some
      simp only [Lexed.behind, List.length_append, List.length_singleton]
      omega

theorem mem_text (tiles : Tiles start source lexed) {lexeme : Lexeme}
    (member : lexeme ∈ lexed.lexemes) {offset : Nat} (covers : lexeme.Covers (start.offset + offset))
    {c : Char} (found : source[offset]? = some c) : c ∈ lexeme.text := by
  obtain ⟨_, _, before, behind, rfl, starts⟩ := tiles.covers lexeme member
  obtain ⟨low, high⟩ := covers
  rw [starts, Position.offset_after] at low high
  rw [List.getElem?_append_right (by omega), List.getElem?_append_left (by omega)] at found
  exact List.mem_of_getElem? found

theorem length_texts_le (tiles : Tiles start source lexed) :
    (lexed.lexemes.flatMap (·.text)).length ≤ source.length := by
  induction tiles with
  | finished _ => simp
  | failed _ _ => simp
  | token _ _ _ _ _ ih =>
      simp only [Lexed.behind, List.singleton_append, List.flatMap_cons, List.length_append]
      omega

theorem covered (tiles : Tiles start source lexed)
    (seamless : lexed.lexemes.flatMap (·.text) = source) {offset : Nat}
    (inside : offset < source.length) :
    ∃ lexeme ∈ lexed.lexemes, lexeme.Covers (start.offset + offset) := by
  induction tiles generalizing offset with
  | finished _ =>
      rw [← seamless] at inside
      cases inside
  | failed _ some =>
      exact absurd (List.append_eq_nil_iff.mp seamless.symm).2 some
  | @token start gap lexeme rest later _ starts _ _ tiles ih =>
      have fits := tiles.length_texts_le
      simp only [Lexed.behind, List.singleton_append, List.flatMap_cons] at seamless ⊢
      have sizes := congrArg List.length seamless
      simp only [List.length_append] at sizes inside
      obtain rfl : gap = [] := List.length_eq_zero_iff.mp (by omega)
      have place : lexeme.start.offset = start.offset := by
        rw [starts]
        rfl
      by_cases here : offset < lexeme.text.length
      · exact ⟨lexeme, List.mem_cons_self, by omega, by omega⟩
      · have texts : later.lexemes.flatMap (·.text) = rest := List.append_cancel_left seamless
        have further : offset - lexeme.text.length < rest.length := by
          simp only [List.length_nil] at inside
          omega
        obtain ⟨other, member, covers⟩ := ih texts further
        rw [Position.offset_after] at covers
        have same : lexeme.start.offset + lexeme.text.length + (offset - lexeme.text.length) =
            start.offset + offset := by omega
        rw [same] at covers
        exact ⟨other, List.mem_cons_of_mem _ member, covers⟩

end Tiles

theorem lex_tiles (source : String) : Tiles .start source.toList (lex source) :=
  lexFrom_tiles ⟨.start, source.toList⟩

theorem lex_mem_text {source : String} {lexeme : Lexeme} (member : lexeme ∈ (lex source).lexemes)
    {offset : Nat} (covers : lexeme.Covers offset) {c : Char}
    (found : source.toList[offset]? = some c) : c ∈ lexeme.text := by
  rw [← Nat.zero_add offset] at covers
  exact (lex_tiles source).mem_text member covers found

theorem lex_covered {source : String}
    (seamless : (lex source).lexemes.flatMap (·.text) = source.toList) {offset : Nat}
    (inside : offset < source.toList.length) :
    ∃ lexeme ∈ (lex source).lexemes, lexeme.Covers offset := by
  have covered := (lex_tiles source).covered seamless inside
  rwa [Position.start, Nat.zero_add] at covered

/-- What the calls for the next token lead to, one after the other. -/
structure Delivers (cursor : Cursor) (lexed : Lexed) : Prop where
  tokens : ∀ count lexeme, lexed.lexemes[count]? = some lexeme →
    ∃ behind, cursor.call count = .ok (some lexeme, behind)
  finished : ∀ position, lexed.ending = .ok position →
    ∀ count, lexed.lexemes.length ≤ count → cursor.call count = .ok (none, ⟨position, []⟩)
  failed : ∀ error, lexed.ending = .error error →
    cursor.call lexed.lexemes.length = .error error

theorem Delivers.behind {cursor behind : Cursor} {lexeme : Lexeme} {later : Lexed}
    (first : cursor.next = .ok (some lexeme, behind)) (delivers : Delivers behind later) :
    Delivers cursor (later.behind [lexeme]) := by
  have further : ∀ count, cursor.call (count + 1) = behind.call count := by
    intro count
    rw [Cursor.call, first]
    rfl
  constructor
  · intro count other found
    cases count with
    | zero =>
        cases found
        exact ⟨behind, first⟩
    | succ count =>
        rw [further]
        exact delivers.tokens count other found
  · intro position ended count passed
    cases count with
    | zero => simp [Lexed.behind] at passed
    | succ count =>
        rw [further]
        exact delivers.finished position ended count (by simpa [Lexed.behind] using passed)
  · intro error ended
    rw [Lexed.behind, List.singleton_append, List.length_cons, further]
    exact delivers.failed error ended

theorem lexFrom_delivers (cursor : Cursor) :
    Delivers cursor (lexFrom cursor.position cursor.unread) := by
  refine Cursor.lexFrom_induction Delivers ?_ ?_ ?_ cursor
  · intro cursor behind next
    have ended : behind = ⟨behind.position, []⟩ := by
      cases Cursor.moves_of_next next with
      | finished _ => rfl
    constructor
    · intro count lexeme found
      cases found
    · intro position same count _
      cases same
      rw [← ended]
      cases count with
      | zero => exact next
      | succ count =>
          refine bind_eq_ok.mpr ⟨_, next, ?_⟩
          rw [ended]
          exact Cursor.call_finished behind.position count
    · intro error failed
      cases failed
  · intro cursor error next
    constructor
    · intro count lexeme found
      cases found
    · intro position ended
      cases ended
    · intro other failed
      cases failed
      exact next
  · intro cursor lexeme behind later next delivers
    exact delivers.behind next

/-- Scanning loses nothing and comes to an end. Tokens cover parts of the source that are not empty,
in order, and what is left over is white space and comments; a query, a name and a number keep their
text. Every call gives the next token, and behind the last one none, however often it is made. -/
theorem lex_lossless (source : String) :
    Tiles .start source.toList (lex source) ∧
    (∀ lexeme ∈ (lex source).lexemes, lexeme.text ≠ [] ∧ lexeme.token.Keeps lexeme.text ∧
      (source.toList.drop lexeme.start.offset).take lexeme.text.length = lexeme.text) ∧
    ((lex source).lexemes.Pairwise fun first second =>
      first.start.offset + first.text.length ≤ second.start.offset) ∧
    (lex source).lexemes.length ≤ source.length ∧
    Delivers ⟨.start, source.toList⟩ (lex source) := by
  have tiles := lex_tiles source
  refine ⟨tiles, ?_, tiles.ordered, tiles.length_le, lexFrom_delivers ⟨.start, source.toList⟩⟩
  intro lexeme member
  obtain ⟨some, keeps, before, behind, cut, starts⟩ := tiles.covers lexeme member
  refine ⟨some, keeps, ?_⟩
  rw [starts, Position.offset_after, cut]
  simp [Position.start]

end Stencil.Source
