import Stencil.Proofs.Offences
import Stencil.Proofs.Viability

/-! Every position that is reported is a place of the source, with the line and the column that the
text in front of it gives. Positions are carried along character by character; here they are counted
from the start of the source. -/

namespace Stencil

open Source (Cursor Expr Position)

namespace Source

namespace Position

/-- A place in a source. Lines count the newlines in front of it, columns the characters behind the
last of them. -/
structure Within (source : List Char) (position : Position) : Prop where
  bound : position.offset ≤ source.length
  line : position.line = 1 + (source.take position.offset).count '\n'
  column : position.column =
    1 + ((source.take position.offset).reverse.takeWhile fun c => c != '\n').length

theorem line_after (text : List Char) : (start.after text).line = 1 + text.count '\n' := by
  induction text using List.reverseRecOn with
  | nil => rfl
  | append_singleton text c ih =>
      rw [after_append, List.count_append, ← Nat.add_assoc, ← ih]
      change ((start.after text).next c).line = _
      unfold next
      split
      next newline => simp [newline]
      next other => simp [List.count_eq_zero, Ne.symm other]

theorem column_after (text : List Char) :
    (start.after text).column = 1 + (text.reverse.takeWhile fun c => c != '\n').length := by
  induction text using List.reverseRecOn with
  | nil => rfl
  | append_singleton text c ih =>
      rw [after_append, List.reverse_append, List.reverse_singleton, List.singleton_append]
      change ((start.after text).next c).column = _
      unfold next
      split
      next newline => simp [newline]
      next other =>
        rw [List.takeWhile_cons_of_pos (by simpa using other), List.length_cons, ← Nat.add_assoc,
          ← ih]

theorem within_after (before behind : List Char) :
    (start.after before).Within (before ++ behind) := by
  have offset : (start.after before).offset = before.length := by
    rw [offset_after]
    exact Nat.zero_add _
  have front : (before ++ behind).take (start.after before).offset = before := by
    rw [offset, List.take_left]
  constructor
  · rw [offset, List.length_append]
    exact Nat.le_add_right _ _
  · rw [front]
    exact line_after before
  · rw [front]
    exact column_after before

end Position

namespace Cursor

def tokenStart (cursor : Cursor) : Position :=
  cursor.position.after (cursor.unread.take (triviaLength false cursor.unread))

inductive Looks (cursor : Cursor) : Except LexError (Option Lexeme × Cursor) → Prop
  | finished : Looks cursor (.ok (none, ⟨cursor.tokenStart, []⟩))
  | failed {gap c rest fault} : cursor.unread = gap ++ c :: rest → Trivia (c :: rest) gap →
      cursor.tokenStart = cursor.position.after gap → scan c rest = .error fault →
      Looks cursor (.error ⟨fault.cause, cursor.tokenStart.after ((c :: rest).take fault.offset)⟩)
  | token {gap c rest token length} : cursor.unread = gap ++ c :: rest → Trivia (c :: rest) gap →
      cursor.tokenStart = cursor.position.after gap → scan c rest = .ok (token, length) →
      Looks cursor (.ok (some ⟨token, c :: rest.take length, cursor.tokenStart⟩,
        ⟨cursor.tokenStart.after (c :: rest.take length), rest.drop length⟩))

theorem looks_of_next {cursor : Cursor} {outcome : Except LexError (Option Lexeme × Cursor)}
    (next : cursor.next = outcome) : cursor.Looks outcome := by
  obtain ⟨trivia, _⟩ := trivia_take cursor.unread
  have cut := (List.take_append_drop (triviaLength false cursor.unread) cursor.unread).symm
  rw [← next]
  unfold Cursor.next
  dsimp only
  cases visible : cursor.unread.drop (triviaLength false cursor.unread) with
  | nil => exact .finished
  | cons c rest =>
      rw [visible] at cut trivia
      dsimp only
      cases scanned : scan c rest with
      | error fault => exact .failed cut trivia rfl scanned
      | ok found => exact .token cut trivia rfl scanned

inductive Reached (source : List Char) : Cursor → Prop
  | start : Reached source ⟨.start, source⟩
  | next {cursor token behind} : Reached source cursor → cursor.next = .ok (token, behind) →
      Reached source behind

variable {source : List Char} {cursor : Cursor}

theorem Reached.cut (reached : Reached source cursor) :
    ∃ before, source = before ++ cursor.unread ∧ cursor.position = Position.start.after before := by
  induction reached with
  | start => exact ⟨[], rfl, rfl⟩
  | @next cursor token behind _ next ih =>
      obtain ⟨before, whole, position⟩ := ih
      cases moves_of_next next with
      | finished _ =>
          refine ⟨source, (List.append_nil _).symm, ?_⟩
          rw [position, ← Position.after_append, ← whole]
      | @token gap lexeme rest cut _ starts _ _ =>
          refine ⟨before ++ (gap ++ lexeme.text), by rw [whole, cut]; simp, ?_⟩
          rw [starts, position, Position.after_append, Position.after_append]

theorem Reached.within (reached : Reached source cursor) {front behind : List Char}
    (cut : cursor.unread = front ++ behind) : (cursor.position.after front).Within source := by
  obtain ⟨before, whole, position⟩ := reached.cut
  rw [whole, cut, position, ← Position.after_append, ← List.append_assoc]
  exact Position.within_after _ _

theorem Reached.tokenStart (reached : Reached source cursor) : cursor.tokenStart.Within source :=
  reached.within (List.take_append_drop _ _).symm

theorem Reached.error (reached : Reached source cursor) {error : LexError}
    (failed : cursor.next = .error error) : error.position.Within source := by
  cases looks_of_next failed with
  | @failed gap c rest fault cut _ start _ =>
      rw [← List.take_append_drop fault.offset (c :: rest), ← List.append_assoc] at cut
      have within := reached.within cut
      rwa [Position.after_append, ← start] at within

theorem next_start {found : Option Lexeme} {behind : Cursor}
    (next : cursor.next = .ok (found, behind)) :
    found.elim behind.position (·.start) = cursor.tokenStart := by
  cases looks_of_next next with
  | finished => rfl
  | token _ _ _ _ => rfl

end Cursor

open Cursor (Reached)

def Lexed.last (lexed : Lexed) : Position :=
  match lexed.ending with
  | .ok position => position
  | .error error => error.position

def Lexed.places (lexed : Lexed) : List Position :=
  lexed.lexemes.map (·.start) ++ [lexed.last]

theorem lexFrom_within {source : List Char} (cursor : Cursor) : Reached source cursor →
    ∀ place ∈ (lexFrom cursor.position cursor.unread).places, place.Within source := by
  refine Cursor.lexFrom_induction (fun cursor lexed => Reached source cursor →
    ∀ place ∈ lexed.places, place.Within source) ?_ ?_ ?_ cursor
  · intro cursor behind next reached place reported
    cases List.mem_singleton.mp reported
    have start : behind.position = cursor.tokenStart := Cursor.next_start next
    rw [Lexed.last, start]
    exact reached.tokenStart
  · intro cursor error next reached place reported
    cases List.mem_singleton.mp reported
    exact reached.error next
  · intro cursor lexeme behind later next within reached place reported
    rcases List.mem_cons.mp reported with rfl | further
    · have start : lexeme.start = cursor.tokenStart := Cursor.next_start next
      change lexeme.start.Within source
      rw [start]
      exact reached.tokenStart
    · exact within (reached.next next) place further

theorem lex_within {source : String} {place : Position} (reported : place ∈ (lex source).places) :
    place.Within source.toList :=
  lexFrom_within ⟨.start, source.toList⟩ .start place reported

theorem parse_error_place {lexed : Lexed} {error : ParseError}
    (failed : lexed.parse = .error error) : error.position ∈ lexed.places := by
  obtain ⟨before, behind, cut, points, _⟩ := lexed_parse_blamed failed
  have started : ∀ lexeme rest, behind = lexeme :: rest → lexeme.start ∈ lexed.places := by
    rintro lexeme rest rfl
    exact List.mem_append_left _ (List.mem_map.mpr ⟨lexeme, by simp [cut], rfl⟩)
  have ended : ∀ place, lexed.last = place → place ∈ lexed.places := by
    rintro place rfl
    exact List.mem_append_right _ (List.mem_singleton_self _)
  cases points with
  | lex same => exact ended _ (by rw [Lexed.last, same]; rfl)
  | ended same => exact ended _ (by rw [Lexed.last, same]; rfl)
  | token => exact started _ _ rfl
  | tooDeep _ => exact started _ _ rfl

theorem opening_lexeme {source : String} {expr part : Expr} {token : Token} {place : Position}
    (parsed : parse source = .ok expr) (member : part ∈ expr.parts)
    (opening : part.opening? = some (token, place)) :
    ∃ lexeme ∈ (lex source).lexemes, lexeme.token = token ∧ lexeme.start = place := by
  have derives := ((lexed_parse_iff _ _).mp parsed).2.1
  have listed : (token, place) ∈ openingsOf expr.parts :=
    List.mem_filterMap.mpr ⟨part, member, opening⟩
  obtain ⟨lexeme, inside, same⟩ := List.mem_map.mp ((openings_sublist expr derives).subset listed)
  cases same
  exact ⟨lexeme, inside, rfl, rfl⟩

/-- How the first token of a construct is written, up to where the text of a query begins. -/
def Token.lead : Token → List Char
  | .query _ => ['$']
  | .range => "range".toList
  | .name text => text.toList
  | _ => []

theorem keyword_lead (text : List Char) : (keyword (String.ofList text)).lead <+: text := by
  unfold keyword
  split
  next => exact List.nil_prefix
  next =>
    split
    next => exact List.nil_prefix
    next =>
      split
      next => exact List.nil_prefix
      next =>
        split
        next same =>
          rw [← String.toList_ofList (l := text), same]
          exact List.prefix_refl _
        next =>
          rw [Token.lead, String.toList_ofList]

theorem scanNumber_lead {text : List Char} {token : Token} {length : Nat}
    (scanned : scanNumber text = .ok (token, length)) : token.lead = [] := by
  simp only [scanNumber] at scanned
  split at scanned
  next => cases scanned
  next =>
    split at scanned
    · cases scanned
      rfl
    · cases scanned

theorem punctuation?_lead {c : Char} {token : Token} (found : punctuation? c = some token) :
    token.lead = [] := by
  unfold punctuation? at found
  split at found <;> cases found <;> rfl

theorem scan_lead {c : Char} {rest : List Char} {token : Token} {length : Nat}
    (scanned : scan c rest = .ok (token, length)) : token.lead <+: c :: rest.take length := by
  cases scan_scanned scanned with
  | mark found =>
      rw [punctuation?_lead found]
      exact List.nil_prefix
  | query dollar run =>
      rw [scanQuery_eq_ok run, dollar]
      exact ⟨_, rfl⟩
  | string _ _ => exact List.nil_prefix
  | number _ run =>
      rw [scanNumber_lead run]
      exact List.nil_prefix
  | name =>
      rw [scanName_text]
      exact keyword_lead _

theorem Cursor.next_lead {cursor behind : Cursor} {lexeme : Lexeme}
    (next : cursor.next = .ok (some lexeme, behind)) : lexeme.token.lead <+: lexeme.text := by
  cases looks_of_next next with
  | token _ _ _ scanned => exact scan_lead scanned

theorem lex_lead {source : String} :
    ∀ lexeme ∈ (lex source).lexemes, lexeme.token.lead <+: lexeme.text := by
  refine Cursor.lexFrom_induction
    (fun _ lexed => ∀ lexeme ∈ lexed.lexemes, lexeme.token.lead <+: lexeme.text) ?_ ?_ ?_
    ⟨.start, source.toList⟩
  · intro cursor behind next
    exact List.forall_mem_nil _
  · intro cursor error next
    exact List.forall_mem_nil _
  · intro cursor lexeme behind later next leads
    exact List.forall_mem_cons.mpr ⟨Cursor.next_lead next, leads⟩

theorem Token.lead_ne_nil {token : Token} {text : List Char} (keeps : token.Keeps text)
    (visible : text ≠ []) {part : Expr} {place : Position}
    (opening : part.opening? = some (token, place)) : token.lead ≠ [] := by
  cases part <;> cases opening
  · exact List.cons_ne_nil _ _
  · decide
  · rw [Token.lead, keeps]
    exact visible

theorem parse_error_within {source : String} {error : ParseError}
    (failed : parse source = .error error) : error.position.Within source.toList :=
  lex_within (parse_error_place failed)

theorem opening_within {source : String} {expr part : Expr} {token : Token} {place : Position}
    (parsed : parse source = .ok expr) (member : part ∈ expr.parts)
    (opening : part.opening? = some (token, place)) :
    place.Within source.toList ∧ token.lead ≠ [] ∧
      token.lead <+: source.toList.drop place.offset := by
  obtain ⟨lexeme, inside, rfl, rfl⟩ := opening_lexeme parsed member opening
  obtain ⟨visible, keeps, before, behind, cut, starts⟩ := (lex_tiles source).covers lexeme inside
  refine ⟨lex_within (List.mem_append_left _ (List.mem_map_of_mem inside)),
    Token.lead_ne_nil keeps visible opening, ?_⟩
  have offset : lexeme.start.offset = before.length := by
    rw [starts, Position.offset_after]
    exact Nat.zero_add _
  rw [cut, offset, List.drop_left]
  exact (lex_lead lexeme inside).trans (List.prefix_append _ _)

end Source

namespace Template

variable {functions : Functions} {source : String}

theorem compile_error_within {error : CompileError}
    (failed : compile functions source = .error error) : error.position.Within source.toList := by
  cases parsed : Source.parse source with
  | error reason =>
      unfold compile at failed
      rw [parsed] at failed
      cases failed
      exact Source.parse_error_within parsed
  | ok expr =>
      have checks := @Node.compile_checks functions expr
      rw [compile_parsed parsed, map_eq_error] at failed
      rw [failed] at checks
      generalize cut : expr.parts = parts at checks
      cases checks with
      | @faulty before part after _ _ fault =>
          have place := Functions.position_of_faults (List.mem_of_head? fault)
          rw [Source.Expr.position?_eq] at place
          obtain ⟨⟨token, position⟩, opening, rfl⟩ := Option.map_eq_some_iff.mp place
          exact (Source.opening_within parsed (cut ▸ by simp) opening).1

/-- Every position that is reported is true to the source: where a call of the scanner looks for a
token and where it fails, where parsing or compiling fails, and where the constructs of an
expression lie. At the place of a construct stands the beginning of its first token. -/
theorem positions_true (functions : Functions) (source : String) :
    (∀ cursor, Cursor.Reached source.toList cursor →
      cursor.tokenStart.Within source.toList ∧
      (∀ found behind, cursor.next = .ok (found, behind) →
        found.elim behind.position (·.start) = cursor.tokenStart) ∧
      ∀ error, cursor.next = .error error → error.position.Within source.toList) ∧
    (∀ place ∈ (Source.lex source).places, place.Within source.toList) ∧
    (∀ error, Source.parse source = .error error → error.position.Within source.toList) ∧
    (∀ error, compile functions source = .error error → error.position.Within source.toList) ∧
    ∀ expr, Source.parse source = .ok expr → ∀ part ∈ expr.parts, ∀ token place,
      part.opening? = some (token, place) →
        place.Within source.toList ∧ token.lead ≠ [] ∧
          token.lead <+: source.toList.drop place.offset := by
  refine ⟨fun cursor reached => ⟨reached.tokenStart, fun found behind => Cursor.next_start,
    fun error => reached.error⟩, fun place => Source.lex_within, fun error =>
    Source.parse_error_within, fun error => compile_error_within, ?_⟩
  intro expr parsed part member token place opening
  exact Source.opening_within parsed member opening

theorem positions_true_lines :
    (Source.parse "[\n \"\\q" = .error (.lex ⟨.invalidEscape "q", ⟨2, 3, 4⟩⟩) ∧
      (⟨2, 3, 4⟩ : Position).Within "[\n \"\\q".toList) ∧
    Source.parse "[\"\n\", # f\n f($)]" =
      .ok (.array [.string "\n", .call "f" [.extractor "$" ⟨3, 4, 13⟩] ⟨3, 2, 11⟩]) ∧
    (⟨3, 2, 11⟩ : Position).Within "[\"\n\", # f\n f($)]".toList ∧
    "f".toList <+: "[\"\n\", # f\n f($)]".toList.drop 11 ∧
    compile [] "[\"\n\", # f\n f($)]" = .error (.unknownFunction "f" ⟨3, 2, 11⟩) := by
  have failed : Source.parse "[\n \"\\q" =
      .error (.lex ⟨.invalidEscape "q", ⟨2, 3, 4⟩⟩) := by cbv
  have parsed : Source.parse "[\"\n\", # f\n f($)]" =
      .ok (.array [.string "\n", .call "f" [.extractor "$" ⟨3, 4, 13⟩] ⟨3, 2, 11⟩]) := by cbv
  obtain ⟨_, _, ofParsing, _, _⟩ := positions_true [] "[\n \"\\q"
  obtain ⟨_, _, _, _, ofConstructs⟩ := positions_true [] "[\"\n\", # f\n f($)]"
  obtain ⟨within, _, text⟩ := ofConstructs _ parsed
    (.call "f" [.extractor "$" ⟨3, 4, 13⟩] ⟨3, 2, 11⟩)
    (by simp [Expr.parts, Expr.partsItems]) _ _ rfl
  exact ⟨⟨failed, ofParsing _ failed⟩, parsed, within, text, by cbv⟩

end Template

end Stencil
