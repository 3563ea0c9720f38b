import Stencil.Proofs.Literals
import Stencil.Proofs.Scanning

/-! String literals of a template. They are the literals of JSON and have the same values, but for
control characters, which a template may have between its quotes. -/

namespace Stencil.Source

open Json (Escape HexQuad Lacks Written literal?)

/-- The characters in front of the closing quote, or of the end of the text, but for those right
behind a backslash. -/
def rawCharacters : List Char → List Char
  | [] => []
  | '"' :: _ => []
  | ['\\'] => []
  | '\\' :: _ :: rest => rawCharacters rest
  | c :: rest => c :: rawCharacters rest

theorem rawCharacters_plain {c : Char} (rest : List Char) (quote : c ≠ '"')
    (backslash : c ≠ '\\') : rawCharacters (c :: rest) = c :: rawCharacters rest := by
  rw [rawCharacters]
  · exact quote
  · intro same
    exact absurd same backslash
  · intro _ _ same
    exact absurd same backslash

theorem rawCharacters_digits {digits : List Char} (rest : List Char)
    (hex : ∀ d ∈ digits, Text.isHexDigit d = true) :
    rawCharacters (digits ++ rest) = digits ++ rawCharacters rest := by
  induction digits with
  | nil => rfl
  | cons d digits ih =>
      obtain ⟨first, later⟩ := List.forall_mem_cons.mp hex
      have other : ∀ c, Text.isHexDigit c = false → d ≠ c := by
        rintro c noDigit rfl
        rw [first] at noDigit
        cases noDigit
      rw [List.cons_append, rawCharacters_plain _ (other '"' rfl) (other '\\' rfl), ih later]
      rfl

theorem rawCharacters_escape {escape rest : List Char} {c d : Char} (meant : Escape escape c)
    (raw : d ∈ rawCharacters rest) : d ∈ rawCharacters ('\\' :: (escape ++ rest)) := by
  cases meant with
  | short _ => simpa [rawCharacters] using raw
  | code quad _ =>
      rw [List.cons_append, rawCharacters, rawCharacters_digits rest quad.2.1]
      exact List.mem_append_right _ raw
  | pair first _ second _ =>
      rw [List.cons_append, rawCharacters, List.append_assoc, rawCharacters_digits _ first.2.1,
        List.cons_append, List.cons_append, rawCharacters, rawCharacters_digits rest second.2.1]
      exact List.mem_append_right _ (List.mem_append_right _ raw)

theorem StringText.content {used content behind : List Char} (inner : StringText used content)
    (visible : ∀ c ∈ rawCharacters (used ++ '"' :: behind), 0x20 ≤ c.toNat) :
    Json.Content used content := by
  induction inner with
  | nil => exact .nil
  | plain quote backslash _ ih =>
      rw [List.cons_append, rawCharacters_plain _ quote backslash] at visible
      obtain ⟨first, later⟩ := List.forall_mem_cons.mp visible
      exact .plain quote backslash first (ih later)
  | escape meant _ ih =>
      refine .escape meant (ih fun c raw => visible c ?_)
      rw [List.cons_append, List.append_assoc]
      exact rawCharacters_escape meant raw

theorem lexFrom_string (position : Position) (text : List Char) :
    lexFrom position ('"' :: text) = match scanString 1 text with
      | .error fault =>
        ⟨[], .error ⟨fault.cause, position.after (('"' :: text).take fault.offset)⟩⟩
      | .ok (content, length) => Lexed.behind
        [⟨.string (String.ofList content), '"' :: text.take length, position⟩]
        (lexFrom (position.after ('"' :: text.take length)) (text.drop length)) := by
  rw [lexFrom_visible text (by decide), lexAt, scan_quote]
  cases scanString 1 text <;> rfl

theorem StringText.lexed {used content : List Char} (inner : StringText used content)
    (behind : List Char) (position : Position) :
    lexFrom position ('"' :: (used ++ '"' :: behind)) = Lexed.behind
      [⟨.string (String.ofList content), '"' :: (used ++ ['"']), position⟩]
      (lexFrom (position.after ('"' :: (used ++ ['"']))) behind) := by
  have size : used.length + 1 = (used ++ ['"']).length := by simp
  have cut : used ++ '"' :: behind = (used ++ ['"']) ++ behind := by simp
  rw [lexFrom_token position (by decide) (inner.scan behind), size, cut, List.take_left,
    List.drop_left]

theorem literal_iff {text : List Char} {s : String} :
    Written literal? text (.string s) ↔ ∃ used content, text = '"' :: (used ++ ['"']) ∧
      Json.Content used content ∧ s = String.ofList content := by
  constructor
  · rintro ⟨⟩
    exact ⟨_, _, rfl, ‹_›, rfl⟩
  · rintro ⟨used, content, rfl, inner, rfl⟩
    exact .string inner

theorem literal_lexed {literal : List Char} {s : String}
    (isLiteral : Written literal? literal (.string s))
    (behind : List Char) (position : Position) :
    lexFrom position (literal ++ behind) = Lexed.behind [⟨.string s, literal, position⟩]
      (lexFrom (position.after literal) behind) := by
  obtain ⟨used, content, rfl, inner, rfl⟩ := literal_iff.mp isLiteral
  have lexed := (StringText.of_content inner).lexed behind position
  simpa using lexed

theorem literal_of_lexed {text literal behind : List Char} {s : String} {position : Position}
    {later : Lexed} (visible : ∀ c ∈ rawCharacters text, 0x20 ≤ c.toNat)
    (lexed : lexFrom position ('"' :: text) = Lexed.behind [⟨.string s, literal, position⟩] later)
    (cut : '"' :: text = literal ++ behind) : Written literal? literal (.string s) := by
  rw [lexFrom_string] at lexed
  cases run : scanString 1 text with
  | error fault =>
      rw [run] at lexed
      cases congrArg Lexed.lexemes lexed
  | ok found =>
      obtain ⟨content, length⟩ := found
      rw [run] at lexed
      obtain ⟨used, rest, rfl, inner, rfl⟩ := scanString_sound run
      have first := (List.cons.inj (congrArg Lexed.lexemes lexed)).1
      simp only [Lexeme.mk.injEq, Token.string.injEq] at first
      obtain ⟨rfl, rfl, _⟩ := first
      have size : used.length + 1 = (used ++ ['"']).length := by simp
      have whole : used ++ '"' :: rest = (used ++ ['"']) ++ rest := by simp
      rw [size, whole, List.take_left]
      exact .string (inner.content visible)

theorem fails_iff {text : List Char} (position : Position)
    (visible : ∀ c ∈ rawCharacters text, 0x20 ≤ c.toNat) :
    (∃ error, lexFrom position ('"' :: text) = ⟨[], .error error⟩) ↔
      ∀ literal behind s, '"' :: text = literal ++ behind →
        ¬Written literal? literal (.string s) := by
  constructor
  · rintro ⟨error, failed⟩ literal behind s cut isLiteral
    rw [cut, literal_lexed isLiteral] at failed
    cases congrArg Lexed.lexemes failed
  · intro nothing
    cases run : scanString 1 text with
    | error fault =>
        rw [lexFrom_string, run]
        exact ⟨_, rfl⟩
    | ok found =>
        obtain ⟨content, length⟩ := found
        obtain ⟨used, rest, rfl, inner, _⟩ := scanString_sound run
        exact absurd (Written.string (inner.content visible)) (nothing _ rest _ (by simp))

def utf16 (c : Char) : List Nat :=
  if c.toNat < 0x10000 then [c.toNat]
  else [0xd800 + (c.toNat - 0x10000) / 0x400, 0xdc00 + (c.toNat - 0x10000) % 0x400]

example : utf16 '😀' = [0xd83d, 0xde00] := by decide

/-- How a character can be written in a literal: as it is, by a short escape, or by the digits of
its units. -/
inductive Spelled : List Char → Char → Prop
  | raw {c} : c ≠ '"' → c ≠ '\\' → Spelled [c] c
  | short {mark c} : Text.shortEscape? mark = some c → Spelled ['\\', mark] c
  | units {quads c} : List.Forall₂ HexQuad quads (utf16 c) →
      Spelled (quads.flatMap fun digits => '\\' :: 'u' :: digits) c

theorem escape_units {quads : List (List Char)} {c : Char}
    (units : List.Forall₂ HexQuad quads (utf16 c)) :
    ∃ escape, (quads.flatMap fun digits => '\\' :: 'u' :: digits) = '\\' :: escape ∧
      Escape escape c := by
  have valid : c.toNat < 0xd800 ∨ 0xdfff < c.toNat ∧ c.toNat < 0x110000 := c.valid
  unfold utf16 at units
  split at units
  next small =>
    obtain ⟨digits, _, quad, nothing, rfl⟩ := List.forall₂_cons_right_iff.mp units
    cases nothing
    have whole : Json.isSurrogate c.toNat = false := by
      simp only [Json.isSurrogate, Text.isHighSurrogate, Text.isLowSurrogate, Bool.or_eq_false_iff,
        Bool.and_eq_false_iff, decide_eq_false_iff_not]
      omega
    have escape := Escape.code quad whole
    rw [Char.ofNat_toNat] at escape
    exact ⟨_, by simp, escape⟩
  next large =>
    obtain ⟨first, _, quad, others, rfl⟩ := List.forall₂_cons_right_iff.mp units
    obtain ⟨second, _, lowQuad, nothing, rfl⟩ := List.forall₂_cons_right_iff.mp others
    cases nothing
    generalize high : 0xd800 + (c.toNat - 0x10000) / 0x400 = upper at quad
    generalize low : 0xdc00 + (c.toNat - 0x10000) % 0x400 = lower at lowQuad
    have isHigh : Text.isHighSurrogate upper = true := by
      simp only [Text.isHighSurrogate, Bool.and_eq_true, decide_eq_true_eq]
      omega
    have isLow : Text.isLowSurrogate lower = true := by
      simp only [Text.isLowSurrogate, Bool.and_eq_true, decide_eq_true_eq]
      omega
    have joined : Text.joinSurrogates upper lower = c.toNat := by
      unfold Text.joinSurrogates
      omega
    have escape := Escape.pair quad isHigh lowQuad isLow
    rw [joined, Char.ofNat_toNat] at escape
    exact ⟨_, by simp, escape⟩

theorem Spelled.stringText {pieces : List (List Char)} {content : List Char}
    (spelled : List.Forall₂ Spelled pieces content) : StringText pieces.flatten content := by
  induction spelled with
  | nil => exact .nil
  | cons first _ ih =>
      rw [List.flatten_cons]
      cases first with
      | raw quote backslash => exact .plain quote backslash ih
      | short mark => exact .escape (.short mark) ih
      | units units =>
          obtain ⟨escape, same, meant⟩ := escape_units units
          rw [same]
          exact .escape meant ih

/-- A backslash in front of this starts no escape: the mark is unknown, digits are missing, or they
are half of a pair and the other half is not where it belongs. -/
inductive BadEscape : List Char → Prop
  | unknown {mark rest} : mark ≠ 'u' → Text.shortEscape? mark = none → BadEscape (mark :: rest)
  | tooShort {digits rest} : digits.length < 4 → (∀ d ∈ digits, Text.isHexDigit d = true) →
      Lacks Text.isHexDigit rest → BadEscape ('u' :: (digits ++ rest))
  | lowFirst {digits code rest} : HexQuad digits code → Text.isLowSurrogate code = true →
      BadEscape ('u' :: (digits ++ rest))
  | unpaired {digits code rest} : HexQuad digits code → Text.isHighSurrogate code = true →
      (∀ others low behind, rest = '\\' :: 'u' :: (others ++ behind) → HexQuad others low →
        Text.isLowSurrogate low = false) →
      BadEscape ('u' :: (digits ++ rest))

theorem quad_front {first second rest behind : List Char} {code other : Nat}
    (quad : HexQuad first code) (quadToo : HexQuad second other)
    (same : first ++ rest = second ++ behind) : code = other ∧ rest = behind := by
  obtain ⟨digits, rests⟩ := List.append_inj same (quad.1.trans quadToo.1.symm)
  refine ⟨?_, rests⟩
  rw [← quad.2.2, ← quadToo.2.2, digits]

theorem code_front {text used behind : List Char} {c : Char} (escape : Escape used c)
    (cut : 'u' :: text = used ++ behind) :
    ∃ digits code rest, text = digits ++ rest ∧ HexQuad digits code ∧
      (Json.isSurrogate code = false ∨ Text.isHighSurrogate code = true ∧
        ∃ others low behind, rest = '\\' :: 'u' :: (others ++ behind) ∧ HexQuad others low ∧
          Text.isLowSurrogate low = true) := by
  cases escape with
  | short mark =>
      obtain ⟨rfl, _⟩ := List.cons.inj cut
      simp [Text.shortEscape?] at mark
  | @code first code quad whole =>
      exact ⟨first, code, behind, (List.cons.inj cut).2, quad, Or.inl whole⟩
  | @pair first second high low quad isHigh lowQuad isLow =>
      obtain ⟨_, same⟩ := List.cons.inj cut
      exact ⟨first, high, '\\' :: 'u' :: (second ++ behind), by simp [same], quad,
        Or.inr ⟨isHigh, second, low, behind, rfl, lowQuad, isLow⟩⟩

theorem short_front {digits quad rest behind : List Char} {code : Nat} (short : digits.length < 4)
    (lacks : Lacks Text.isHexDigit rest) (isQuad : HexQuad quad code) :
    digits ++ rest ≠ quad ++ behind := by
  intro same
  rcases List.append_eq_append_iff.mp same with ⟨more, rfl, rfl⟩ | ⟨more, rfl, _⟩
  · cases more with
    | nil =>
        have four := isQuad.1
        rw [List.append_nil] at four
        omega
    | cons d more =>
        have hex := isQuad.2.1 d (by simp)
        have other := lacks d rfl
        rw [hex] at other
        cases other
  · have four := isQuad.1
    rw [List.length_append] at short
    omega

theorem BadEscape.no_escape {text used behind : List Char} {c : Char} (bad : BadEscape text)
    (cut : text = used ++ behind) : ¬Escape used c := by
  intro escape
  cases bad with
  | unknown noCode unknown =>
      cases escape with
      | short short =>
          cases cut
          rw [short] at unknown
          cases unknown
      | code _ _ => exact noCode (List.cons.inj cut).1
      | pair _ _ _ _ => exact noCode (List.cons.inj cut).1
  | tooShort short _ lacks =>
      obtain ⟨quad, code, rest, same, isQuad, _⟩ := code_front escape cut
      exact short_front short lacks isQuad same
  | lowFirst quad isLow =>
      obtain ⟨_, code, rest, same, isQuad, kind⟩ := code_front escape cut
      obtain ⟨rfl, rfl⟩ := quad_front quad isQuad same
      rcases kind with whole | ⟨isHigh, _⟩
      · simp [Json.isSurrogate, isLow] at whole
      · rw [Json.not_low_of_high isHigh] at isLow
        cases isLow
  | unpaired quad isHigh noPair =>
      obtain ⟨_, code, rest, same, isQuad, kind⟩ := code_front escape cut
      obtain ⟨rfl, rfl⟩ := quad_front quad isQuad same
      rcases kind with whole | ⟨_, others, low, behind, rest, lowQuad, isLow⟩
      · simp [Json.isSurrogate, isHigh] at whole
      · rw [noPair others low behind rest lowQuad] at isLow
        cases isLow

theorem BadEscape.rejected {used content rest : List Char} (bad : BadEscape rest)
    (inner : StringText used content) (position : Position) :
    ∃ escape, lexFrom position ('"' :: (used ++ '\\' :: rest)) =
      ⟨[], .error ⟨.invalidEscape escape, position.after ('"' :: used)⟩⟩ := by
  obtain ⟨mark, more, rfl⟩ : ∃ mark more, rest = mark :: more := by
    cases bad <;> exact ⟨_, _, rfl⟩
  cases meaning : unescape mark more with
  | ok found =>
      obtain ⟨c, length⟩ := found
      obtain ⟨escape, behind, same, _, meant⟩ := unescape_sound meaning
      exact absurd meant (bad.no_escape (by rw [same, List.cons_append]))
  | error escape =>
      have stops : scanString (1 + used.length) ('\\' :: mark :: more) =
          .error ⟨.invalidEscape escape, 1 + used.length⟩ := by
        rw [scanString, meaning]
      refine ⟨escape, ?_⟩
      rw [lexFrom_string, inner.continues, stops]
      simp [Except.map, Nat.add_comm 1]

/-- String literals of a template decode as those of JSON do. Where no control character stands
between its quotes, a literal is a token exactly if it is one of JSON, and then the token has its
value; the scanner fails where no literal of JSON stands in front. However the characters of a
string are spelled, the string is read back. Every bad escape is rejected, at its backslash. -/
theorem literals_decode (position : Position) :
    (∀ text, (∀ c ∈ rawCharacters text, 0x20 ≤ c.toNat) →
      (∀ literal behind s, '"' :: text = literal ++ behind →
        (lexFrom position ('"' :: text) = Lexed.behind [⟨.string s, literal, position⟩]
            (lexFrom (position.after literal) behind) ↔
          Written literal? literal (.string s))) ∧
      ((∃ error, lexFrom position ('"' :: text) = ⟨[], .error error⟩) ↔
        ∀ literal behind s, '"' :: text = literal ++ behind →
          ¬Written literal? literal (.string s))) ∧
    (∀ (s : String) pieces behind, List.Forall₂ Spelled pieces s.toList →
      lexFrom position ('"' :: (pieces.flatten ++ '"' :: behind)) =
        Lexed.behind [⟨.string s, '"' :: (pieces.flatten ++ ['"']), position⟩]
          (lexFrom (position.after ('"' :: (pieces.flatten ++ ['"']))) behind)) ∧
    ∀ used content rest, StringText used content → BadEscape rest →
      ∃ escape, lexFrom position ('"' :: (used ++ '\\' :: rest)) =
        ⟨[], .error ⟨.invalidEscape escape, position.after ('"' :: used)⟩⟩ := by
  refine ⟨fun text visible => ⟨?_, fails_iff position visible⟩, ?_, ?_⟩
  · intro literal behind s cut
    constructor
    · intro lexed
      exact literal_of_lexed visible lexed cut
    · intro isLiteral
      rw [cut]
      exact literal_lexed isLiteral behind position
  · intro s pieces behind spelled
    have lexed := (Spelled.stringText spelled).lexed behind position
    rwa [String.ofList_toList] at lexed
  · intro used content rest inner bad
    exact bad.rejected inner position

theorem literals_decode_pair :
    let text := "\\ud83d\\uDE00\\n\", 1".toList
    let literal := "\"\\ud83d\\uDE00\\n\"".toList
    (∀ c ∈ rawCharacters text, 0x20 ≤ c.toNat) ∧ Written literal? literal (.string "😀\n") ∧
    lexFrom .start ('"' :: text) = Lexed.behind [⟨.string "😀\n", literal, .start⟩]
      (lexFrom (Position.start.after literal) ", 1".toList) := by
  intro text literal
  have visible : ∀ c ∈ rawCharacters text, 0x20 ≤ c.toNat := by simp [text, rawCharacters]
  have units : List.Forall₂ HexQuad ["d83d".toList, "DE00".toList] (utf16 '😀') :=
    .cons ⟨rfl, List.all_eq_true.mp rfl, rfl⟩ (.cons ⟨rfl, List.all_eq_true.mp rfl, rfl⟩ .nil)
  have spelled : List.Forall₂ Spelled ["\\ud83d\\uDE00".toList, "\\n".toList] "😀\n".toList :=
    .cons (.units units) (.cons (.short rfl) .nil)
  obtain ⟨decodes, spellings, _⟩ := literals_decode .start
  have lexed := spellings "😀\n" _ ", 1".toList spelled
  exact ⟨visible, ((decodes text visible).1 literal ", 1".toList _ rfl).mp lexed, lexed⟩

end Stencil.Source
