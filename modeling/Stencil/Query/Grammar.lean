import Stencil.Query.Basic
import Stencil.Number.Numeral
import Stencil.Unicode.Property

/-! Reading the text of a query: a dollar sign and segments such as `.name`, `..*`, `[2, -1]`,
`[1:8:2]` and `['any name']`. -/

namespace Stencil.Query

inductive Cause where
  | noRoot
  | unexpectedCharacter (c : Char)
  | noMemberName
  | unsupportedFilter
  | noSelector
  | noSeparator
  | unterminatedName
  | invalidInteger (text : String)
  | stepNotPositive
deriving DecidableEq

def Cause.message : Cause → String
  | noRoot => "query must start with '$'"
  | unexpectedCharacter c => s!"unexpected '{c}'"
  | noMemberName => "expected a member name or '*'"
  | unsupportedFilter => "filter and script expressions are not supported"
  | noSelector => "expected a selector"
  | noSeparator => "expected ',' or ']'"
  | unterminatedName => "unterminated quoted name"
  | invalidInteger text => s!"invalid integer '{text}'"
  | stepNotPositive => "slice step must be positive"

structure SyntaxError where
  query : String
  cause : Cause
  offset : Nat
deriving DecidableEq

def SyntaxError.message (error : SyntaxError) : String :=
  s!"invalid query '{error.query}': {error.cause.message} at offset {error.offset}"

structure Fault where
  cause : Cause
  unread : List Char

def isSpace (c : Char) : Bool :=
  c == ' '

def skipSpaces (text : List Char) : List Char :=
  text.dropWhile isSpace

theorem length_dropWhile_le (p : Char → Bool) (text : List Char) :
    (text.dropWhile p).length ≤ text.length :=
  (List.dropWhile_suffix p).length_le

structure Step (α : Type) (text : List Char) where
  result : α
  rest : List Char
  bound : rest.length ≤ text.length

abbrev Reader (α : Type) := (text : List Char) → Except Fault (Step α text)

namespace Step

variable {α β : Type} {text : List Char}

def map (f : α → β) (step : Step α text) : Step β text :=
  ⟨f step.result, step.rest, step.bound⟩

def behind (first : Char) (step : Step α text) : Step α (first :: text) :=
  ⟨step.result, step.rest, Nat.le_succ_of_le step.bound⟩

def within (first : Step α text) (second : Step β first.rest) : Step β text :=
  ⟨second.result, second.rest, Nat.le_trans second.bound first.bound⟩

def spaced (step : Step α (skipSpaces text)) : Step α text :=
  ⟨step.result, step.rest, Nat.le_trans step.bound (length_dropWhile_le isSpace text)⟩

def skip (step : Step α text) : Step α text :=
  ⟨step.result, skipSpaces step.rest, Nat.le_trans (length_dropWhile_le isSpace step.rest) step.bound⟩

end Step

def isMemberCharacter (c : Char) : Bool :=
  Unicode.isAlphanumeric c || c == '_' || c == '-'

def dotted : Reader Selector
  | [] => .error ⟨.noMemberName, []⟩
  | c :: rest =>
    if c = '*' then .ok ⟨.wildcard, rest, by simp⟩
    else
      let name := (c :: rest).takeWhile isMemberCharacter
      if name = [] then .error ⟨.noMemberName, c :: rest⟩
      else
        .ok ⟨.name (String.ofList name), (c :: rest).dropWhile isMemberCharacter,
          length_dropWhile_le _ _⟩

/-- A name up to its closing quote. A backslash makes the next character literal. -/
def quotedName (quote : Char) : Reader (List Char)
  | [] => .error ⟨.unterminatedName, []⟩
  | c :: rest =>
    if c = quote then .ok ⟨[], rest, Nat.le_succ _⟩
    else if c = '\\' then
      match rest with
      | [] => .error ⟨.unterminatedName, []⟩
      | literal :: rest =>
        (quotedName quote rest).map fun name =>
          ((name.map (literal :: ·)).behind literal).behind c
    else (quotedName quote rest).map fun name => (name.map (c :: ·)).behind c

def fits (n : Int) : Bool :=
  -0x8000000000000000 ≤ n && n < 0x8000000000000000

def startsInteger : List Char → Bool
  | [] => false
  | c :: _ => c == '-' || c.isDigit

def digits (text : List Char) : Step (List Char) text :=
  ⟨text.takeWhile Char.isDigit, text.dropWhile Char.isDigit, length_dropWhile_le _ _⟩

def minus : (text : List Char) → Step (List Char) text
  | '-' :: rest => ⟨['-'], rest, Nat.le_succ _⟩
  | rest => ⟨[], rest, Nat.le_refl _⟩

def integer : Reader Int := fun text =>
  let sign := minus text
  let body := (sign.within (digits sign.rest)).skip
  let magnitude : Int := Number.digitsValue body.result
  let n := if sign.result = [] then magnitude else -magnitude
  if body.result ≠ [] ∧ fits n then .ok (body.map fun _ => n)
  else .error ⟨.invalidInteger (String.ofList (sign.result ++ body.result)), body.rest⟩

def integer? : Reader (Option Int) := fun text =>
  let start := skipSpaces text
  if startsInteger start then (integer start).map fun read => (read.map some).spaced
  else .ok ⟨none, start, length_dropWhile_le isSpace text⟩

def step? : Reader (Option Int)
  | ':' :: rest => (integer? rest).map (Step.behind ':')
  | rest => .ok ⟨none, rest, Nat.le_refl _⟩

def sliceFrom (start : Option Int) : Reader Selector := fun text => do
  let stop ← integer? text
  let step ← step? stop.rest
  let size := (step.result.getD 1).toNat
  if positive : 0 < size then
    return stop.within (step.map fun _ => .slice start stop.result ⟨size, positive⟩)
  else throw ⟨.stepNotPositive, step.rest⟩

def indexOrSlice (first : Int) : Reader Selector
  | ':' :: rest => (sliceFrom (some first) rest).map (Step.behind ':')
  | rest => .ok ⟨.index first, rest, Nat.le_refl _⟩

def selector : Reader Selector
  | [] => .error ⟨.noSelector, []⟩
  | c :: rest =>
    if c = '*' then .ok ⟨.wildcard, rest, Nat.le_succ _⟩
    else if c = '\x27' ∨ c = '"' then
      (quotedName c rest).map fun name => (name.map fun cs => .name (String.ofList cs)).behind c
    else if c = '?' ∨ c = '(' then .error ⟨.unsupportedFilter, c :: rest⟩
    else if c = ':' then (sliceFrom none rest).map (Step.behind c)
    else if startsInteger (c :: rest) then do
      let first ← integer (c :: rest)
      (indexOrSlice first.result first.rest).map first.within
    else .error ⟨.noSelector, c :: rest⟩

def bracket (text : List Char) : Except Fault (Step (List Selector) text) := do
  let spaced ← selector (skipSpaces text)
  let first := spaced.spaced.skip
  match behind : first.rest with
  | ',' :: rest =>
    have shorter : rest.length < text.length := by
      have size := first.bound
      rw [behind, List.length_cons] at size
      exact size
    let more ← bracket rest
    return ⟨first.result :: more.result, more.rest,
      Nat.le_of_lt (Nat.lt_of_le_of_lt more.bound shorter)⟩
  | ']' :: rest =>
    return ⟨[first.result], rest, by
      have size := first.bound
      rw [behind, List.length_cons] at size
      exact Nat.le_of_succ_le size⟩
  | rest => throw ⟨.noSeparator, rest⟩
termination_by text.length

def readSegment (c : Char) (rest : List Char) : Except Fault (Step Segment rest) :=
  if c = '.' then
    match rest with
    | '.' :: '[' :: rest =>
      (bracket rest).map fun step => ((step.map .descendant).behind '[').behind '.'
    | '.' :: rest => (dotted rest).map fun step => (step.map fun one => .descendant [one]).behind '.'
    | rest => (dotted rest).map fun step => step.map fun one => .child [one]
  else if c = '[' then (bracket rest).map fun step => step.map .child
  else .error ⟨.unexpectedCharacter c, c :: rest⟩

def readSegments : List Char → Except Fault (List Segment)
  | [] => .ok []
  | c :: rest => do
    let first ← readSegment c rest
    have := first.bound
    let more ← readSegments first.rest
    return first.result :: more
termination_by text => text.length

/-- Reads a query. The offset of an error counts the characters before it. -/
def compile (text : String) : Except SyntaxError Query :=
  let result : Except Fault (List Segment) :=
    match text.toList with
    | '$' :: rest => readSegments rest
    | cs => .error ⟨.noRoot, cs⟩
  match result with
  | .ok segments => .ok ⟨text, segments⟩
  | .error fault => .error ⟨text, fault.cause, text.length - fault.unread.length⟩

end Stencil.Query
