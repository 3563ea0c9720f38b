import Stencil.Number.Numeral
import Stencil.Source.Position
import Stencil.Source.Token
import Stencil.Text.Surrogate

/-! Splitting a template source into tokens. Every scanner says how many characters its token takes
after the first one; the source is then cut there, so tokens and the white space and comments
between them make up the whole source. -/

namespace Stencil.Source

inductive LexCause where
  | unexpectedCharacter (c : Char)
  | unterminatedString
  | invalidEscape (escape : String)
  | invalidNumber (text : String)
  | unterminatedQuery (query : String)
deriving DecidableEq

structure LexError where
  cause : LexCause
  position : Position
deriving DecidableEq

def LexError.message (error : LexError) : String :=
  let place := error.position.describe
  match error.cause with
  | .unexpectedCharacter c => s!"unexpected character '{c}' at {place}"
  | .unterminatedString => s!"unterminated string starting at {place}"
  | .invalidEscape escape => "invalid escape sequence '\\" ++ escape ++ s!"' at {place}"
  | .invalidNumber text => s!"invalid number '{text}' at {place}"
  | .unterminatedQuery query => s!"unterminated '[' in query '{query}' starting at {place}"

/-- Why a scanner gives up, and how far from the start of its token the fault lies. -/
structure Fault where
  cause : LexCause
  offset : Nat

def triviaLength (inComment : Bool) : List Char → Nat
  | [] => 0
  | c :: rest =>
    if inComment then triviaLength (c != '\n') rest + 1
    else if c = '#' then triviaLength true rest + 1
    else if Unicode.isWhiteSpace c then triviaLength false rest + 1
    else 0

def isNameStart (c : Char) : Bool :=
  c.isAlpha || c == '_'

def isNameCharacter (c : Char) : Bool :=
  c.isAlphanum || c == '_'

def hexQuad (cs : List Char) : Except String Nat :=
  let digits := (cs.take 4).takeWhile Text.isHexDigit
  if digits.length = 4 then .ok (Text.hexNumber digits)
  else .error (String.ofList ('u' :: digits))

def badCode (code : Nat) : String :=
  String.ofList ('u' :: Text.hex4 code)

/-- The character that the digits of a code escape stand for, and how many characters they take.
A character above `U+FFFF` takes a pair of escapes. -/
def codeEscape (cs : List Char) : Except String (Char × Nat) :=
  match hexQuad cs with
  | .error escape => .error escape
  | .ok code =>
    if Text.isHighSurrogate code then
      if (cs.drop 4).take 2 = ['\\', 'u'] then
        match hexQuad (cs.drop 6) with
        | .error escape => .error escape
        | .ok low =>
          if Text.isLowSurrogate low then .ok (Char.ofNat (Text.joinSurrogates code low), 10)
          else .error (badCode low)
      else .error (badCode code)
    else if Text.isLowSurrogate code then .error (badCode code)
    else .ok (Char.ofNat code, 4)

def unescape (mark : Char) (cs : List Char) : Except String (Char × Nat) :=
  if mark = 'u' then codeEscape cs
  else
    match Text.shortEscape? mark with
    | some c => .ok (c, 0)
    | none => .error (String.singleton mark)

def scanString (offset : Nat) : List Char → Except Fault (List Char × Nat)
  | [] => .error ⟨.unterminatedString, 0⟩
  | '"' :: _ => .ok ([], 1)
  | '\\' :: [] => .error ⟨.unterminatedString, 0⟩
  | '\\' :: mark :: rest =>
    match unescape mark rest with
    | .error escape => .error ⟨.invalidEscape escape, offset⟩
    | .ok (c, length) =>
      (scanString (offset + 2 + length) (rest.drop length)).map fun (content, more) =>
        (c :: content, 2 + length + more)
  | c :: rest => (scanString (offset + 1) rest).map fun (content, more) => (c :: content, more + 1)
termination_by cs => cs.length

def fractionText : List Char → List Char
  | '.' :: c :: rest => if c.isDigit then '.' :: c :: rest.takeWhile Char.isDigit else []
  | _ => []

def signText : List Char → List Char
  | '+' :: _ => ['+']
  | '-' :: _ => ['-']
  | _ => []

def exponentText : List Char → List Char
  | [] => []
  | mark :: rest =>
    if mark = 'e' ∨ mark = 'E' then
      let sign := signText rest
      let digits := (rest.drop sign.length).takeWhile Char.isDigit
      if digits = [] then [] else mark :: (sign ++ digits)
    else []

def minusText : List Char → List Char
  | '-' :: _ => ['-']
  | _ => []

def numberText (cs : List Char) : List Char :=
  let minus := minusText cs
  let whole := (cs.drop minus.length).takeWhile Char.isDigit
  let integer := minus ++ whole
  let decimal := integer ++ fractionText (cs.drop integer.length)
  decimal ++ exponentText (cs.drop decimal.length)

def startsNumber (c : Char) (rest : List Char) : Bool :=
  c.isDigit ||
    match rest with
    | [] => false
    | d :: _ => (c == '-' && (d.isDigit || d == '.')) || (c == '.' && d.isDigit)

def scanNumber (cs : List Char) : Except Fault (Token × Nat) :=
  let text := numberText cs
  let invalid := .error ⟨.invalidNumber (String.ofList text), 0⟩
  match Number.ofText? text with
  | none => invalid
  | some x => if x.isFinite then .ok (.number x, text.length - 1) else invalid

inductive QueryPart where
  | bare
  | bracket
  | quoted (quote : Char)
  | escaped (quote : Char)

/-- The part that a character leads to, none where the query ends before it. -/
def QueryPart.step : QueryPart → Char → Option QueryPart
  | bare, c =>
    if c = '[' then some bracket
    else if c = '.' ∨ c = '*' ∨ isNameCharacter c then some bare
    else none
  | bracket, c =>
    if c = ']' then some bare
    else if c = '\x27' ∨ c = '"' then some (quoted c)
    else some bracket
  | quoted quote, c =>
    if c = quote then some bracket
    else if c = '\\' then some (escaped quote)
    else some (quoted quote)
  | escaped quote, _ => some (quoted quote)

def queryLength : QueryPart → List Char → Option Nat
  | .bare, [] => some 0
  | _, [] => none
  | part, c :: rest =>
    match part.step c with
    | none => some 0
    | some next => (queryLength next rest).map (· + 1)

def scanQuery (rest : List Char) : Except Fault (Token × Nat) :=
  match queryLength .bare rest with
  | some length => .ok (.query (String.ofList ('$' :: rest.take length)), length)
  | none => .error ⟨.unterminatedQuery (String.ofList ('$' :: rest)), 0⟩

def keyword (text : String) : Token :=
  if text = "true" then .bool true
  else if text = "false" then .bool false
  else if text = "null" then .null
  else if text = "range" then .range
  else .name text

def scanName (c : Char) (rest : List Char) : Token × Nat :=
  let more := rest.takeWhile isNameCharacter
  (keyword (String.ofList (c :: more)), more.length)

def punctuation? : Char → Option Token
  | '@' => some .atSign
  | ',' => some .comma
  | ':' => some .colon
  | '{' => some .leftBrace
  | '}' => some .rightBrace
  | '(' => some .leftParen
  | ')' => some .rightParen
  | '[' => some .leftBracket
  | ']' => some .rightBracket
  | _ => none

/-- The token that starts with a character, and how many of the following characters it takes. -/
def scan (c : Char) (rest : List Char) : Except Fault (Token × Nat) :=
  match punctuation? c with
  | some token => .ok (token, 0)
  | none =>
    if c = '$' then scanQuery rest
    else if c = '"' then
      (scanString 1 rest).map fun (content, length) => (.string (String.ofList content), length)
    else if startsNumber c rest then scanNumber (c :: rest)
    else if isNameStart c then .ok (scanName c rest)
    else .error ⟨.unexpectedCharacter c, 0⟩

structure Lexeme where
  token : Token
  text : List Char
  start : Position

structure Lexed where
  lexemes : List Lexeme
  ending : Except LexError Position

def lexFrom (position : Position) (source : List Char) : Lexed :=
  let length := triviaLength false source
  let start := position.after (source.take length)
  match _cut : source.drop length with
  | [] => ⟨[], .ok start⟩
  | c :: rest =>
    match scan c rest with
    | .error fault =>
      ⟨[], .error ⟨fault.cause, start.after ((c :: rest).take fault.offset)⟩⟩
    | .ok (token, length) =>
      let text := c :: rest.take length
      let later := lexFrom (start.after text) (rest.drop length)
      ⟨⟨token, text, start⟩ :: later.lexemes, later.ending⟩
termination_by source.length
decreasing_by
  have size := congrArg List.length _cut
  simp only [List.length_drop, List.length_cons] at size ⊢
  omega

def lex (source : String) : Lexed :=
  lexFrom .start source.toList

end Stencil.Source
