import Stencil.Proofs.Json.Lines
import Stencil.Proofs.Layout

/-! The tokens of printed values. Both layouts write those of the same document, on one line without
anything in between, and indented with line breaks between them. -/

namespace Stencil.Json

open Source (Lexeme Token Scans IsToken tokensOf startsTrivia)

namespace Document

mutual

def tokens : Document Float → List Token
  | null => [.null]
  | bool b => [.bool b]
  | number x => [.number x]
  | string s => [.string s]
  | array items => .leftBracket :: ([.comma].intercalate (tokensItems items) ++ [.rightBracket])
  | object members => .leftBrace :: ([.comma].intercalate (tokensMembers members) ++ [.rightBrace])
termination_by structural document => document

def tokensItems : List (Document Float) → List (List Token)
  | [] => []
  | document :: rest => document.tokens :: tokensItems rest
termination_by structural items => items

def tokensMembers : List (String × Document Float) → List (List Token)
  | [] => []
  | (name, document) :: rest => (.string name :: .colon :: document.tokens) :: tokensMembers rest
termination_by structural members => members

end

theorem tokensItems_eq (items : List (Document Float)) : tokensItems items = items.map tokens := by
  induction items with
  | nil => rfl
  | cons item rest ih => rw [tokensItems, List.map_cons, ih]

theorem tokensMembers_eq (members : List (String × Document Float)) :
    tokensMembers members =
      members.map fun member => .string member.1 :: .colon :: member.2.tokens := by
  induction members with
  | nil => rfl
  | cons member rest ih => rw [tokensMembers, List.map_cons, ih]

end Document

/-- No control characters, and white space in strings only. -/
structure Solid (token : Token) (text : List Char) : Prop where
  visible : ∀ c ∈ text, Unicode.isControl c = false
  whole : (∀ s, token ≠ .string s) → ∀ c ∈ text, Unicode.isWhiteSpace c = false

theorem solid_of_bounds {token : Token} {text : List Char}
    (bounds : ∀ c ∈ text, 0x21 ≤ c.toNat ∧ c.toNat < 0x7f) : Solid token text := by
  constructor
  · intro c member
    obtain ⟨low, high⟩ := bounds c member
    exact isControl_of_bounds (by omega) high
  · intro _ c member
    obtain ⟨low, high⟩ := bounds c member
    exact Source.isWhiteSpace_of_bounds low high

/-- In front of what stands behind it, a printed text is scanned as some tokens. On one line the
tokens leave nothing of it. -/
def Typeset (layout : Layout) (behind text : List Char) (tokens : List Token) : Prop :=
  Scans text behind fun lexemes => tokensOf lexemes = tokens ∧
    (∀ lexeme ∈ lexemes, Solid lexeme.token lexeme.text) ∧
    (layout = .compact → lexemes.flatMap (·.text) = text)

section

variable {layout : Layout} {behind first second text : List Char}

theorem Typeset.append {left right : List Token}
    (front : Typeset layout (second ++ behind) first left)
    (back : Typeset layout behind second right) :
    Typeset layout behind (first ++ second) (left ++ right) := by
  refine (Scans.append front back).mono ?_
  rintro _ ⟨before, after, rfl, ⟨rfl, solid, seamless⟩, ⟨rfl, solidToo, seamlessToo⟩⟩
  refine ⟨by simp [tokensOf], List.forall_mem_append.mpr ⟨solid, solidToo⟩, fun compact => ?_⟩
  rw [List.flatMap_append, seamless compact, seamlessToo compact]

theorem typeset_nil : Typeset layout behind [] [] :=
  fun position => ⟨[], position, ⟨rfl, by simp, fun _ => rfl⟩, rfl⟩

theorem typeset_gap {gap : List Char} (blank : Blank gap) : Typeset .pretty behind gap [] := by
  refine (scans_blank blank behind).mono ?_
  rintro _ rfl
  exact ⟨rfl, by simp, by simp⟩

theorem typeset_lineBreak (level : Nat) : Typeset layout behind (layout.lineBreak level) [] := by
  cases layout with
  | compact => exact typeset_nil
  | pretty => exact typeset_gap (lineBreak_blank .pretty level)

theorem typeset_token {token : Token} (scans : Scans text behind (IsToken token text))
    (solid : Solid token text) : Typeset layout behind text [token] := by
  refine scans.mono ?_
  rintro _ ⟨start, rfl⟩
  exact ⟨rfl, List.forall_mem_singleton.mpr solid, fun _ => by simp⟩

theorem typeset_mark {c : Char} {token : Token} (mark : Source.punctuation? c = some token)
    (seen : startsTrivia c = false) (bounds : 0x21 ≤ c.toNat ∧ c.toNat < 0x7f) :
    Typeset layout behind [c] [token] :=
  typeset_token (scans_punctuation mark seen behind)
    (solid_of_bounds (List.forall_mem_singleton.mpr bounds))

theorem typeset_colon : Typeset layout behind layout.colon [.colon] := by
  have mark : ∀ {layout behind}, Typeset layout behind [':'] [.colon] :=
    typeset_mark rfl (by decide) (by decide)
  cases layout with
  | compact => exact mark
  | pretty =>
      have space : Blank [' '] := by simp [Blank, isBlank]
      exact mark.append (typeset_gap space)

theorem typeset_string (s : String) : Typeset layout behind (quoted s) [.string s] := by
  have scans := scans_string (content_escape s.toList) behind
  rw [String.ofList_toList] at scans
  refine typeset_token scans ⟨?_, fun noString => absurd rfl (noString s)⟩
  exact (quoted_shown s).visible

theorem typeset_null (stops : Stops behind) :
    Typeset layout behind ['n', 'u', 'l', 'l'] [.null] :=
  typeset_token (scans_null stops) (solid_of_bounds (by simp))

theorem typeset_bool (stops : Stops behind) (b : Bool) :
    Typeset layout behind (if b then "true" else "false").toList [.bool b] := by
  cases b with
  | true => exact typeset_token (scans_true stops) (solid_of_bounds (by simp))
  | false => exact typeset_token (scans_false stops) (solid_of_bounds (by simp))

theorem typeset_numeral (stops : Stops behind) (x : Float) :
    Typeset layout behind (numeral x)
      (((if x.isFinite then some x else none).elim Document.null .number).tokens) := by
  unfold numeral
  split
  next finite =>
    have isNumber := numberText_text finite
    have meant := literal?_eq_some.mpr ⟨ofText?_text finite, finite⟩
    apply typeset_token (scans_number isNumber meant stops)
    apply solid_of_bounds
    intro c member
    have bounds := isNumber.bounds c member
    omega
  next => exact typeset_null stops

def Prints (layout : Layout) (text : List Char) (tokens : List Token) : Prop :=
  ∀ behind, Stops behind → Typeset layout behind text tokens

theorem typeset_lines (level : Nat) {texts : List (List Char)} {parts : List (List Token)}
    (each : List.Forall₂ (Prints layout) texts parts) (stops : Stops behind) :
    Typeset layout behind (lines layout level texts) ([.comma].intercalate parts) := by
  induction each with
  | nil => exact typeset_nil
  | @cons text tokens texts parts first others ih =>
      cases others with
      | nil =>
          rw [List.intercalate_singleton]
          exact (typeset_lineBreak level).append (first _ stops)
      | cons next others =>
          have comma : ∀ {behind}, Typeset layout behind [','] [.comma] :=
            typeset_mark rfl (by decide) (by decide)
          rw [List.intercalate_cons_cons, List.append_assoc]
          refine ((typeset_lineBreak level).append (first _ ?_)).append (comma.append ih)
          exact stops_cons _ rfl

theorem typeset_enclosed (level : Nat) {opening closing : Char} {opens closes : Token}
    (left : ∀ behind, Typeset layout behind [opening] [opens])
    (right : ∀ behind, Typeset layout behind [closing] [closes]) (ends : endsWord closing = true)
    {texts : List (List Char)} {parts : List (List Token)}
    (each : List.Forall₂ (Prints layout) texts parts) :
    Typeset layout behind (enclosed layout level opening closing texts)
      (opens :: ([.comma].intercalate parts ++ [closes])) := by
  unfold enclosed
  split
  next empty =>
    obtain rfl := List.isEmpty_iff.mp empty
    cases each
    exact (left _).append (right behind)
  next =>
    have last := (typeset_lineBreak level).append (right behind)
    have stops : Stops (layout.lineBreak level ++ [closing] ++ behind) := by
      rw [List.append_assoc]
      exact (stops_cons behind ends).behindGap (lineBreak_blank layout level)
    have body := (typeset_lines (level + 1) each stops).append last
    rw [← List.append_assoc] at body
    exact (left _).append body

theorem print_typeset (level : Nat) (value : Value) :
    Prints layout (print layout level value) (Document.printed value).tokens := by
  refine print_induction (motive := fun text document => Prints layout text document.tokens)
    ?_ ?_ ?_ ?_ ?_ ?_ level (Value.everyNumber_of_forall (fun _ => trivial) value)
  · exact fun _ stops => typeset_null stops
  · exact fun b _ stops => typeset_bool stops b
  · exact fun x _ _ stops => typeset_numeral stops x
  · exact fun s _ _ => typeset_string s
  · intro level texts items each behind _
    rw [Document.tokens, Document.tokensItems_eq]
    apply typeset_enclosed level
    · exact fun _ => typeset_mark rfl (by decide) (by decide)
    · exact fun _ => typeset_mark rfl (by decide) (by decide)
    · rfl
    · exact List.forall₂_map_right_iff.mpr each
  · intro level texts members each behind _
    rw [Document.tokens, Document.tokensMembers_eq]
    apply typeset_enclosed level
    · exact fun _ => typeset_mark rfl (by decide) (by decide)
    · exact fun _ => typeset_mark rfl (by decide) (by decide)
    · rfl
    · refine List.forall₂_map_right_iff.mpr (each.imp ?_)
      rintro _ _ ⟨name, content⟩ behind stops
      exact ((typeset_string name).append typeset_colon).append (content behind stops)

end

def InString (lexed : Source.Lexed) (offset : Nat) : Prop :=
  ∃ lexeme ∈ lexed.lexemes, (∃ s, lexeme.token = .string s) ∧ lexeme.Covers offset

theorem print_lexed (layout : Layout) (value : Value) :
    ∃ lexemes last, Source.lex (String.ofList (print layout 0 value)) = ⟨lexemes, .ok last⟩ ∧
      tokensOf lexemes = (Document.printed value).tokens ∧
      (∀ lexeme ∈ lexemes, Solid lexeme.token lexeme.text) ∧
      (layout = .compact → lexemes.flatMap (·.text) = print layout 0 value) := by
  obtain ⟨lexemes, last, found, run⟩ := (print_typeset 0 value [] stops_nil).lexed .start
  refine ⟨lexemes, last, ?_, found⟩
  rw [Source.lex, String.toList_ofList, run]

theorem compact_spaces (value : Value) {offset : Nat} {c : Char}
    (found : (compact value).toList[offset]? = some c) (space : Unicode.isWhiteSpace c = true) :
    InString (Source.lex (compact value)) offset := by
  obtain ⟨lexemes, last, run, _, solid, seamless⟩ := print_lexed .compact value
  rw [← compact] at run
  have whole : (Source.lex (compact value)).lexemes.flatMap (·.text) = (compact value).toList := by
    rw [run, seamless rfl, compact, String.toList_ofList]
  obtain ⟨inside, _⟩ := List.getElem?_eq_some_iff.mp found
  obtain ⟨lexeme, member, covers⟩ := Source.lex_covered whole inside
  refine ⟨lexeme, member, ?_, covers⟩
  have present := Source.lex_mem_text member covers found
  rw [run] at member
  by_contra noString
  have unseen := (solid lexeme member).whole (not_exists.mp noString) c present
  rw [space] at unseen
  cases unseen

theorem pretty_controls (value : Value) {offset : Nat} {c : Char}
    (found : (pretty value).toList[offset]? = some c) (control : Unicode.isControl c = true) :
    c = '\n' ∧ ¬InString (Source.lex (pretty value)) offset := by
  obtain ⟨lexemes, last, run, _, solid, _⟩ := print_lexed .pretty value
  rw [← pretty] at run
  constructor
  · have present := List.mem_of_getElem? found
    rw [pretty, String.toList_ofList] at present
    exact (print_shown 0 value c present control).2
  · rintro ⟨lexeme, member, _, covers⟩
    have present := Source.lex_mem_text member covers found
    rw [run] at member
    have unseen := (solid lexeme member).visible c present
    rw [control] at unseen
    cases unseen

/-- Both layouts are scanned without an error as the tokens of one document. On one line all white
space lies in string literals; the control characters of the indented layout are newlines outside of
them. -/
theorem layouts_agree (value : Value) :
    (∀ text ∈ [compact value, pretty value],
      (Source.lex text).outline = ((Document.printed value).tokens, none)) ∧
    (∀ offset c, (compact value).toList[offset]? = some c → Unicode.isWhiteSpace c = true →
      InString (Source.lex (compact value)) offset) ∧
    ∀ offset c, (pretty value).toList[offset]? = some c → Unicode.isControl c = true →
      c = '\n' ∧ ¬InString (Source.lex (pretty value)) offset := by
  refine ⟨?_, fun _ _ => compact_spaces value, fun _ _ => pretty_controls value⟩
  have outline : ∀ layout, (Source.lex (String.ofList (print layout 0 value))).outline =
      ((Document.printed value).tokens, none) := by
    intro layout
    obtain ⟨lexemes, last, run, tokens, _⟩ := print_lexed layout value
    rw [run, Source.Lexed.outline, tokens]
    rfl
  exact List.forall_mem_cons.mpr ⟨outline .compact, List.forall_mem_singleton.mpr (outline .pretty)⟩

end Stencil.Json
