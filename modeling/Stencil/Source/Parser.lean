import Stencil.Source.Expr
import Stencil.Source.Lexer

/-! Reading tokens as an expression. The parser looks one token ahead. Where the tokens end with an
error of the lexer, that error is reported as soon as the parser looks past the last token. -/

namespace Stencil.Source

/-- How many objects, arrays, calls and generators may enclose one another. -/
def maxDepth : Nat := 128

inductive Expectation where
  | value
  | generatorQuery
  | label
  | key
  | token (token : Token)
  | endOfInput
deriving DecidableEq

def Expectation.describe : Expectation → String
  | .value => "a value"
  | .generatorQuery => "a query after 'range'"
  | .label => "an annotation name after '@'"
  | .key => "a string key"
  | .token wanted => wanted.describe
  | .endOfInput => "end of input"

/-- The token found is missing at the end of the source. -/
inductive ParseError where
  | lex (error : LexError)
  | unexpected (expected : Expectation) (found : Option Token) (position : Position)
  | tooDeep (position : Position)
deriving DecidableEq

namespace ParseError

def position : ParseError → Position
  | lex error => error.position
  | unexpected _ _ position => position
  | tooDeep position => position

def message : ParseError → String
  | lex error => error.message
  | unexpected expected found position =>
    let foundText := (found.map Token.describe).getD "end of input"
    s!"expected {expected.describe}, found {foundText} at {position.describe}"
  | tooDeep position => s!"template nests deeper than {maxDepth} levels at {position.describe}"

end ParseError

structure Parsed (α : Type) (tokens : List Lexeme) where
  result : α
  rest : List Lexeme
  fewer : rest.length < tokens.length

abbrev Parser (α : Type) := (tokens : List Lexeme) → Except ParseError (Parsed α tokens)

def Parsed.behind {α β : Type} {tokens : List Lexeme} (first : Lexeme) (f : α → β)
    (parsed : Parsed α tokens) : Parsed β (first :: tokens) :=
  ⟨f parsed.result, parsed.rest, Nat.lt_succ_of_lt parsed.fewer⟩

def Parsed.within {α β : Type} {tokens : List Lexeme} (first : Parsed α tokens)
    (second : Parsed β first.rest) : Parsed β tokens :=
  ⟨second.result, second.rest, Nat.lt_trans second.fewer first.fewer⟩

def Parsed.map {α β : Type} {tokens : List Lexeme} (f : α → β) (parsed : Parsed α tokens) :
    Parsed β tokens :=
  ⟨f parsed.result, parsed.rest, parsed.fewer⟩

section

variable (ending : Except LexError Position)

def unexpected (expected : Expectation) : List Lexeme → ParseError
  | [] =>
    match ending with
    | .error error => .lex error
    | .ok position => .unexpected expected none position
  | lexeme :: _ => .unexpected expected (some lexeme.token) lexeme.start

def startsWith (token : Token) : List Lexeme → Bool
  | [] => false
  | lexeme :: _ => lexeme.token = token

def expect (token : Token) : Parser Unit
  | [] => .error (unexpected ending (.token token) [])
  | lexeme :: rest =>
    if lexeme.token = token then .ok ⟨(), rest, by simp⟩
    else .error (unexpected ending (.token token) (lexeme :: rest))

/-- Items with commas between them, up to and including the closing token. A comma may stand behind
the last item where that is allowed. -/
def sequence {α : Type} (item : Parser α) (close : Token) (trailingComma : Bool) :
    Parser (List α)
  | tokens =>
    if startsWith close tokens then do
      let closed ← expect ending close tokens
      return closed.map fun _ => []
    else do
      let first ← item tokens
      if startsWith close first.rest then
        let closed ← expect ending close first.rest
        return first.within (closed.map fun _ => [first.result])
      else
        let comma ← expect ending .comma first.rest
        if !trailingComma && startsWith close comma.rest then
          throw (unexpected ending .value comma.rest)
        have := Nat.lt_trans comma.fewer first.fewer
        let more ← sequence item close trailingComma comma.rest
        return first.within (comma.within (more.map (first.result :: ·)))
termination_by tokens => tokens.length

def labelText? : Token → Option String
  | .name text => some text
  | .range => some "range"
  | .bool b => some (if b then "true" else "false")
  | .null => some "null"
  | _ => none

def fieldLabel (tokens : List Lexeme) :
    Except ParseError (Option String × { rest : List Lexeme // rest.length ≤ tokens.length }) :=
  match tokens with
  | [] => .ok (none, ⟨[], by simp⟩)
  | lexeme :: rest =>
    if lexeme.token = .atSign then
      match rest with
      | [] => .error (unexpected ending .label [])
      | word :: rest =>
        match labelText? word.token with
        | some text => .ok (some text, ⟨rest, by simp; omega⟩)
        | none => .error (unexpected ending .label (word :: rest))
    else .ok (none, ⟨lexeme :: rest, by simp⟩)

def key : Parser String
  | [] => .error (unexpected ending .key [])
  | lexeme :: rest =>
    match lexeme.token with
    | .string s => .ok ⟨s, rest, by simp⟩
    | _ => .error (unexpected ending .key (lexeme :: rest))

def field (value : Parser Expr) : Parser (String × Annotated Expr) := fun tokens => do
  let (label, start) ← fieldLabel ending tokens
  let name ← key ending start.val
  let colon ← expect ending .colon name.rest
  let content ← value colon.rest
  let parsed := name.within (colon.within content)
  return ⟨(name.result, ⟨label, content.result⟩), parsed.rest,
    Nat.lt_of_lt_of_le parsed.fewer start.property⟩

def generatorBody (value : Parser Expr) : Parser (String × Expr)
  | [] => .error (unexpected ending .generatorQuery [])
  | lexeme :: rest =>
    match lexeme.token with
    | .query text => do
      let opening ← expect ending .leftBracket rest
      let template ← value opening.rest
      let closing ← expect ending .rightBracket template.rest
      return (opening.within (template.within closing)).behind lexeme fun _ =>
        (text, template.result)
    | _ => .error (unexpected ending .generatorQuery (lexeme :: rest))

def arguments (value : Parser Expr) : Parser (List Expr) := fun tokens => do
  let opening ← expect ending .leftParen tokens
  let args ← sequence ending value .rightParen false opening.rest
  return opening.within args

def value (levels : Nat) : Parser Expr := fun tokens =>
  match tokens with
  | [] => .error (unexpected ending .value [])
  | lexeme :: rest =>
    let literal (expr : Expr) : Except ParseError (Parsed Expr (lexeme :: rest)) :=
      .ok ⟨expr, rest, by simp⟩
    let nested {α : Type} (f : α → Expr) (parse : Parser Expr → Parser α) :
        Except ParseError (Parsed Expr (lexeme :: rest)) :=
      match levels with
      | 0 => .error (.tooDeep lexeme.start)
      | deeper + 1 => (parse (value deeper) rest).map (Parsed.behind lexeme f)
    match lexeme.token with
    | .string s => literal (.string s)
    | .number x => literal (.number x)
    | .bool b => literal (.bool b)
    | .null => literal .null
    | .query text => literal (.extractor text lexeme.start)
    | .leftBrace =>
      nested Expr.object fun value => sequence ending (field ending value) .rightBrace true
    | .leftBracket => nested Expr.array fun value => sequence ending value .rightBracket true
    | .range =>
      nested (fun (query, template) => Expr.generator query template lexeme.start)
        (generatorBody ending)
    | .name name => nested (fun args => Expr.call name args lexeme.start) (arguments ending)
    | _ => .error (unexpected ending .value (lexeme :: rest))
termination_by structural levels

end

def Lexed.parse (lexed : Lexed) : Except ParseError Expr := do
  let parsed ← value lexed.ending maxDepth lexed.lexemes
  match parsed.rest, lexed.ending with
  | [], .ok _ => return parsed.result
  | rest, ending => throw (unexpected ending .endOfInput rest)

def parse (source : String) : Except ParseError Expr :=
  (lex source).parse

end Stencil.Source
