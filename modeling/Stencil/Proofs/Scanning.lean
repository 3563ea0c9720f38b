import Stencil.Source.Lexer

/-! The scanner goes on behind what it has scanned. -/

namespace Stencil.Source

def startsTrivia (c : Char) : Bool :=
  c == '#' || Unicode.isWhiteSpace c

theorem isWhiteSpace_of_bounds {c : Char} (low : 0x21 ≤ c.toNat) (high : c.toNat < 0x7f) :
    Unicode.isWhiteSpace c = false := by
  simp [Unicode.isWhiteSpace, Unicode.whiteSpace, Unicode.within]
  omega

def Lexed.behind (lexemes : List Lexeme) (later : Lexed) : Lexed :=
  ⟨lexemes ++ later.lexemes, later.ending⟩

theorem Lexed.behind_append (first second : List Lexeme) (later : Lexed) :
    Lexed.behind (first ++ second) later = Lexed.behind first (Lexed.behind second later) := by
  simp [Lexed.behind]

def lexAt (start : Position) : List Char → Lexed
  | [] => ⟨[], .ok start⟩
  | c :: rest =>
    match scan c rest with
    | .error fault => ⟨[], .error ⟨fault.cause, start.after ((c :: rest).take fault.offset)⟩⟩
    | .ok (token, length) => Lexed.behind [⟨token, c :: rest.take length, start⟩]
      (lexFrom (start.after (c :: rest.take length)) (rest.drop length))

theorem lexFrom_eq (position : Position) (source : List Char) :
    lexFrom position source = lexAt (position.after (source.take (triviaLength false source)))
      (source.drop (triviaLength false source)) := by
  rw [lexFrom]
  split
  next nothing => rw [nothing]; rfl
  next c rest cut =>
    rw [cut, lexAt]
    cases scan c rest with
    | error fault => rfl
    | ok found => rfl

theorem lexFrom_nil (position : Position) : lexFrom position [] = ⟨[], .ok position⟩ := by
  rw [lexFrom_eq]
  rfl

theorem lexFrom_space {c : Char} (position : Position) (text : List Char) (noHash : c ≠ '#')
    (space : Unicode.isWhiteSpace c = true) :
    lexFrom position (c :: text) = lexFrom (position.next c) text := by
  have length : triviaLength false (c :: text) = triviaLength false text + 1 := by
    simp [triviaLength, noHash, space]
  rw [lexFrom_eq, lexFrom_eq, length]
  rfl

theorem triviaLength_cons_visible {c : Char} (text : List Char) (visible : startsTrivia c = false) :
    triviaLength false (c :: text) = 0 := by
  rw [startsTrivia, Bool.or_eq_false_iff, beq_eq_false_iff_ne] at visible
  simp [triviaLength, visible.1, visible.2]

theorem lexFrom_visible {position : Position} {c : Char} (text : List Char)
    (visible : startsTrivia c = false) :
    lexFrom position (c :: text) = lexAt position (c :: text) := by
  rw [lexFrom_eq, triviaLength_cons_visible text visible]
  rfl

theorem lexFrom_token {c : Char} {rest : List Char} {token : Token} {length : Nat}
    (position : Position) (visible : startsTrivia c = false)
    (scanned : scan c rest = .ok (token, length)) :
    lexFrom position (c :: rest) = Lexed.behind [⟨token, c :: rest.take length, position⟩]
      (lexFrom (position.after (c :: rest.take length)) (rest.drop length)) := by
  rw [lexFrom_visible rest visible, lexAt, scanned]

/-- In front of what stands behind it, a text is scanned as tokens of some kind. -/
def Scans (text behind : List Char) (Tokens : List Lexeme → Prop) : Prop :=
  ∀ position, ∃ lexemes next, Tokens lexemes ∧
    lexFrom position (text ++ behind) = Lexed.behind lexemes (lexFrom next behind)

theorem Scans.mono {text behind : List Char} {Tokens Others : List Lexeme → Prop}
    (scans : Scans text behind Tokens) (weaker : ∀ lexemes, Tokens lexemes → Others lexemes) :
    Scans text behind Others := by
  intro position
  obtain ⟨lexemes, next, found, run⟩ := scans position
  exact ⟨lexemes, next, weaker lexemes found, run⟩

theorem Scans.append {first second behind : List Char} {First Second : List Lexeme → Prop}
    (front : Scans first (second ++ behind) First) (back : Scans second behind Second) :
    Scans (first ++ second) behind fun lexemes =>
      ∃ before after, lexemes = before ++ after ∧ First before ∧ Second after := by
  intro position
  obtain ⟨before, middle, foundBefore, runBefore⟩ := front position
  obtain ⟨after, next, foundAfter, runAfter⟩ := back middle
  refine ⟨before ++ after, next, ⟨before, after, rfl, foundBefore, foundAfter⟩, ?_⟩
  rw [List.append_assoc, runBefore, runAfter, Lexed.behind_append]

theorem scans_space {gap : List Char} (behind : List Char)
    (space : ∀ c ∈ gap, c ≠ '#' ∧ Unicode.isWhiteSpace c = true) :
    Scans gap behind (· = []) := by
  intro position
  induction gap generalizing position with
  | nil => exact ⟨[], position, rfl, rfl⟩
  | cons c gap ih =>
      obtain ⟨noHash, isSpace⟩ := space c List.mem_cons_self
      obtain ⟨lexemes, next, nothing, run⟩ :=
        ih (fun d member => space d (List.mem_cons_of_mem _ member)) (position.next c)
      refine ⟨lexemes, next, nothing, ?_⟩
      rw [List.cons_append, lexFrom_space position _ noHash isSpace, run]

def IsToken (token : Token) (text : List Char) (lexemes : List Lexeme) : Prop :=
  ∃ start, lexemes = [⟨token, text, start⟩]

theorem scans_token {c : Char} {rest behind : List Char} {token : Token}
    (visible : startsTrivia c = false)
    (scanned : scan c (rest ++ behind) = .ok (token, rest.length)) :
    Scans (c :: rest) behind (IsToken token (c :: rest)) := by
  intro position
  refine ⟨[⟨token, c :: rest, position⟩], position.after (c :: rest), ⟨_, rfl⟩, ?_⟩
  rw [List.cons_append, lexFrom_token position visible scanned, List.take_left, List.drop_left]

theorem Scans.lexed {text : List Char} {Tokens : List Lexeme → Prop} (scans : Scans text [] Tokens)
    (position : Position) :
    ∃ lexemes last, Tokens lexemes ∧ lexFrom position text = ⟨lexemes, .ok last⟩ := by
  obtain ⟨lexemes, last, found, run⟩ := scans position
  refine ⟨lexemes, last, found, ?_⟩
  rw [List.append_nil, lexFrom_nil] at run
  simpa [Lexed.behind] using run

end Stencil.Source
