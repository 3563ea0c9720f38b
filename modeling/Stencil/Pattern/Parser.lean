import Stencil.Number.Numeral
import Stencil.Pattern.Classes
import Stencil.Text.Hex

/-! Reading the text of a pattern. There is no look-around and no reference back to a group. -/

namespace Stencil.Pattern

inductive PatternError where
  | unclosedGroup
  | unopenedGroup
  | badGroup
  | badFlags
  | unclosedClass
  | badRange
  | badEscape
  | nothingToRepeat
  | badCount
  | tooDeep
  | tooLarge

def PatternError.message : PatternError → String
  | unclosedGroup => "unclosed group"
  | unopenedGroup => "unopened group"
  | badGroup => "unsupported group"
  | badFlags => "invalid flags"
  | unclosedClass => "unclosed character class"
  | badRange => "invalid character range"
  | badEscape => "unsupported escape"
  | nothingToRepeat => "nothing to repeat"
  | badCount => "invalid repetition count"
  | tooDeep => "too deeply nested"
  | tooLarge => "too large"

def maxNesting : Nat := 250

structure Flags where
  ignoreCase : Bool
  multiLine : Bool
  dotAll : Bool
  swapGreed : Bool
  unicode : Bool
  spaced : Bool
  returns : Bool

namespace Flags

def default : Flags := ⟨false, false, false, false, true, false, false⟩

def set? (flags : Flags) (value : Bool) : Char → Option Flags
  | 'i' => some { flags with ignoreCase := value }
  | 'm' => some { flags with multiLine := value }
  | 's' => some { flags with dotAll := value }
  | 'U' => some { flags with swapGreed := value }
  | 'u' => some { flags with unicode := value }
  | 'x' => some { flags with spaced := value }
  | 'R' => some { flags with returns := value }
  | _ => none

def isWord (flags : Flags) : CharSet :=
  if flags.unicode then Unicode.isWordCharacter else isAsciiWord

def close (flags : Flags) (set : CharSet) : CharSet :=
  if flags.ignoreCase then set.ignoringCase else set

end Flags

structure State where
  rest : List Char
  groups : Nat
  names : List (String × Nat)

def skipSpaced : Bool → List Char → List Char
  | _, [] => []
  | true, c :: rest => skipSpaced (c != '\n') rest
  | false, c :: rest =>
    if Unicode.isWhiteSpace c then skipSpaced false rest
    else if c = '#' then skipSpaced true rest
    else c :: rest

def Flags.skip (flags : Flags) (rest : List Char) : List Char :=
  if flags.spaced then skipSpaced false rest else rest

inductive Item where
  | char (c : Char)
  | set (set : CharSet)
  | anchor (anchor : Anchor)

def validChar? (code : Nat) : Option Char :=
  if code.isValidChar then some (Char.ofNat code) else none

def codeItem (count : Nat) : List Char → Except PatternError (Item × List Char)
  | '{' :: rest =>
    let digits := rest.takeWhile Text.isHexDigit
    match rest.dropWhile Text.isHexDigit, validChar? (Text.hexNumber digits) with
    | '}' :: rest, some c => if digits = [] then .error .badEscape else .ok (.char c, rest)
    | _, _ => .error .badEscape
  | rest =>
    let digits := rest.take count
    match validChar? (Text.hexNumber digits) with
    | some c =>
      if digits.length = count ∧ digits.all Text.isHexDigit then .ok (.char c, rest.drop count)
      else .error .badEscape
    | none => .error .badEscape

def splitAt? (separator : List Char) : List Char → Option (List Char × List Char)
  | [] => none
  | c :: rest =>
    if separator.isPrefixOf (c :: rest) then some ([], (c :: rest).drop separator.length)
    else (splitAt? separator rest).map fun (front, back) => (c :: front, back)

def propertyItem? (name : List Char) : Option CharSet :=
  let isCategory (key : List Char) : Bool :=
    plainName key == "gc" || plainName key == "generalcategory"
  match splitAt? ['!', '='] name, (splitAt? [':'] name <|> splitAt? ['='] name) with
  | some (key, value), _ => if isCategory key then (property? value).map fun set c => !set c else none
  | none, some (key, value) => if isCategory key then property? value else none
  | none, none => property? name

def propertyEscape (flags : Flags) (negated : Bool) (rest : List Char) :
    Except PatternError (Item × List Char) :=
  let found : Option (Option CharSet × List Char) :=
    match rest with
    | [] => none
    | '{' :: rest =>
      (splitAt? ['}'] rest).map fun (name, rest) => (propertyItem? name, rest)
    | c :: rest => some (property? [c], rest)
  match found with
  | some (some set, rest) =>
    if flags.unicode then .ok (.set fun c => flags.close set c != negated, rest)
    else .error .badEscape
  | _ => .error .badEscape

def boundary (isWord : CharSet) (rest : List Char) : Except PatternError (Item × List Char) :=
  match rest with
  | '{' :: inside =>
    let name := inside.takeWhile fun c => c.isAlpha || c == '-'
    let behind := inside.drop name.length
    if name = [] then .ok (.anchor (.wordBoundary isWord), rest)
    else if behind.head? ≠ some '}' then .error .badEscape
    else
      match String.ofList name with
      | "start" => .ok (.anchor (.wordStart isWord), behind.drop 1)
      | "end" => .ok (.anchor (.wordEnd isWord), behind.drop 1)
      | "start-half" => .ok (.anchor (.wordStartHalf isWord), behind.drop 1)
      | "end-half" => .ok (.anchor (.wordEndHalf isWord), behind.drop 1)
      | _ => .error .badEscape
  | _ => .ok (.anchor (.wordBoundary isWord), rest)

def escape (flags : Flags) : List Char → Except PatternError (Item × List Char)
  | [] => .error .badEscape
  | c :: rest =>
    match letterClass? flags.unicode c, letterClass? flags.unicode c.toLower with
    | some set, _ => .ok (.set (flags.close set), rest)
    | none, some set =>
      if flags.unicode then .ok (.set fun c => !flags.close set c, rest) else .error .badEscape
    | none, none =>
      match c with
      | 'x' => codeItem 2 rest
      | 'u' => codeItem 4 rest
      | 'U' => codeItem 8 rest
      | 'p' => propertyEscape flags false rest
      | 'P' => propertyEscape flags true rest
      | 'a' => .ok (.char '\x07', rest)
      | 'f' => .ok (.char '\x0c', rest)
      | 't' => .ok (.char '\t', rest)
      | 'n' => .ok (.char '\n', rest)
      | 'r' => .ok (.char '\r', rest)
      | 'v' => .ok (.char '\x0b', rest)
      | 'A' => .ok (.anchor .textStart, rest)
      | 'z' => .ok (.anchor .textEnd, rest)
      | 'b' => boundary flags.isWord rest
      | 'B' => .ok (.anchor (.noWordBoundary flags.isWord), rest)
      | '<' => .ok (.anchor (.wordStart flags.isWord), rest)
      | '>' => .ok (.anchor (.wordEnd flags.isWord), rest)
      | c =>
        if c.toNat < 128 ∧ !c.isAlphanum then .ok (.char c, rest) else .error .badEscape

def classItem (flags : Flags) : List Char → Except PatternError (Item × List Char)
  | [] => .error .unclosedClass
  | '\\' :: rest => escape flags rest
  | c :: rest => .ok (.char c, rest)

def classRange (flags : Flags) (rest : List Char) : Except PatternError (CharSet × List Char) := do
  let (first, rest) ← classItem flags rest
  let rest := flags.skip rest
  let rangeEnd :=
    match rest with
    | '-' :: behind =>
      match flags.skip behind with
      | ']' :: _ => none
      | '-' :: _ => none
      | behind => some behind
    | _ => none
  match rangeEnd, first with
  | none, .char c => return (flags.close (· == c), rest)
  | none, .set set => return (flags.close set, rest)
  | none, .anchor _ => throw .badEscape
  | some behind, first =>
    let (last, rest) ← classItem flags behind
    match first, last with
    | .char first, .char last =>
      if first ≤ last then return (flags.close (CharSet.range first last), rest)
      else throw .badRange
    | _, _ => throw .badRange

def namedClassAt? (flags : Flags) : List Char → Option (CharSet × List Char)
  | ':' :: rest =>
    let negated := rest.head? = some '^'
    let rest := if negated then rest.drop 1 else rest
    let name := rest.takeWhile (· != ':')
    match rest.drop name.length, namedClass? (String.ofList name) with
    | ':' :: ']' :: rest, some set => some (fun c => flags.close set c != negated, rest)
    | _, _ => none
  | _ => none

/-- The items of a class up to its closing bracket. `combine` joins the items read now to those
before the last set operation. -/
def classItems (nested : List Char → Except PatternError (CharSet × List Char)) (flags : Flags) :
    Nat → (CharSet → CharSet) → CharSet → List Char → Except PatternError (CharSet × List Char)
  | 0, _, _, _ => .error .unclosedClass
  | fuel + 1, combine, items, rest =>
    let add (found : CharSet × List Char) :=
      classItems nested flags fuel combine (fun c => items c || found.1 c) found.2
    let operate (operation : Bool → Bool → Bool) (rest : List Char) :=
      let done := combine items
      classItems nested flags fuel (fun set c => operation (done c) (set c)) (fun _ => false) rest
    match flags.skip rest with
    | [] => .error .unclosedClass
    | ']' :: rest => .ok (combine items, rest)
    | '[' :: rest =>
      match namedClassAt? flags rest with
      | some found => add found
      | none => nested rest >>= add
    | '&' :: '&' :: rest => operate (fun a b => a && b) rest
    | '-' :: '-' :: rest => operate (fun a b => a && !b) rest
    | '~' :: '~' :: rest => operate (fun a b => a != b) rest
    | rest => classRange flags rest >>= add

def charClass (flags : Flags) : Nat → List Char → Except PatternError (CharSet × List Char)
  | 0, _ => .error .tooDeep
  | levels + 1, rest => do
    let rest := flags.skip rest
    let negated := rest.head? = some '^'
    let rest := if negated then flags.skip (rest.drop 1) else rest
    let dashes := rest.takeWhile (· == '-')
    let rest := flags.skip (rest.drop dashes.length)
    let closing := dashes = [] ∧ rest.head? = some ']'
    let rest := if closing then rest.drop 1 else rest
    let front : CharSet := fun c => (c == '-' && dashes != []) || (c == ']' && decide closing)
    let (set, rest) ← classItems (charClass flags levels) flags (rest.length + 1) id front rest
    if negated && !flags.unicode then throw .badEscape
    return (fun c => set c != negated, rest)

inductive GroupHead where
  | flags (flags : Flags)
  | plain (flags : Flags)
  | capture

def groupFlags (seen : List Char) (value : Bool) (flags : Flags) :
    List Char → Except PatternError (GroupHead × List Char)
  | [] => .error .unclosedGroup
  | ')' :: rest =>
    if seen = [] ∨ seen.head? = some '-' then .error .badFlags else .ok (.flags flags, rest)
  | ':' :: rest => if seen.head? = some '-' then .error .badFlags else .ok (.plain flags, rest)
  | '-' :: rest => if value then groupFlags ('-' :: seen) false flags rest else .error .badFlags
  | c :: rest =>
    match flags.set? value c with
    | some flags =>
      if c ∈ seen then .error .badFlags else groupFlags (c :: seen) value flags rest
    | none => .error .badFlags

def isGroupNameStart (c : Char) : Bool :=
  c == '_' || Unicode.isAlphabetic c

def isGroupNameCharacter (c : Char) : Bool :=
  c == '_' || c == '.' || c == '[' || c == ']' || Unicode.isAlphanumeric c

def groupName (state : State) (rest : List Char) : Except PatternError (GroupHead × State) :=
  let name := rest.takeWhile (· != '>')
  let text := String.ofList name
  match name, rest.drop name.length with
  | first :: _, '>' :: rest =>
    if isGroupNameStart first ∧ name.all isGroupNameCharacter ∧
        (state.names.lookup text).isNone then
      .ok (.capture, ⟨rest, state.groups + 1, (text, state.groups + 1) :: state.names⟩)
    else .error .badGroup
  | _, _ => .error .badGroup

def groupHead (flags : Flags) (state : State) : Except PatternError (GroupHead × State) :=
  match flags.skip state.rest with
  | '?' :: 'P' :: '<' :: rest => groupName state rest
  | '?' :: '<' :: '=' :: _ => .error .badGroup
  | '?' :: '<' :: '!' :: _ => .error .badGroup
  | '?' :: '<' :: rest => groupName state rest
  | '?' :: rest =>
    (groupFlags [] true flags rest).map fun (head, rest) => (head, { state with rest })
  | rest => .ok (.capture, ⟨rest, state.groups + 1, state.names⟩)

def count? (rest : List Char) : Option (Nat × List Char) :=
  let rest := rest.dropWhile Unicode.isWhiteSpace
  let digits := rest.takeWhile Char.isDigit
  let n := Number.digitsValue digits
  if digits ≠ [] ∧ n < 0x100000000 then
    some (n, (rest.drop digits.length).dropWhile Unicode.isWhiteSpace)
  else none

def bounds? (flags : Flags) (rest : List Char) : Option (Nat × Option Nat × List Char) := do
  let (least, rest) ← count? (flags.skip rest)
  match rest with
  | '}' :: rest => return (least, some 0, rest)
  | ',' :: rest =>
    match flags.skip rest with
    | '}' :: rest => return (least, none, rest)
    | rest =>
      let (most, rest) ← count? rest
      match rest with
      | '}' :: rest => if least ≤ most then return (least, some (most - least), rest) else none
      | _ => none
  | _ => none

def lazyMark : List Char → Bool × List Char
  | '?' :: rest => (false, rest)
  | rest => (true, rest)

def sequenceOf (items : List (Option Pattern)) : Pattern :=
  (items.filterMap id).foldl (fun later item => .seq item later) .empty

def choiceOf (last : Pattern) (branches : List Pattern) : Pattern :=
  branches.foldl (fun later branch => .either branch later) last

def Item.toPattern (flags : Flags) : Item → Pattern
  | .char c => .oneOf (flags.close (· == c))
  | .set members => .oneOf members
  | .anchor condition => .holds condition

def dot (flags : Flags) : CharSet :=
  if flags.dotAll then fun _ => true
  else if flags.returns then fun c => c != '\n' && c != '\r'
  else fun c => c != '\n'

def lineAnchor (flags : Flags) (text line returnLine : Anchor) : Pattern :=
  .holds (if flags.multiLine then if flags.returns then returnLine else line else text)

/-- Alternatives up to a closing parenthesis or the end. `branches` and `items` hold, last first,
the alternatives before and the items of the present one; a change of flags is an item that cannot
be repeated. -/
def alternatives (nested : Flags → State → Except PatternError (Pattern × State)) (levels : Nat) :
    Nat → Flags → List Pattern → List (Option Pattern) → State →
      Except PatternError (Pattern × State)
  | 0, _, _, _, _ => .error .tooDeep
  | fuel + 1, flags, branches, items, state =>
    let finish (rest : List Char) : Except PatternError (Pattern × State) :=
      .ok (choiceOf (sequenceOf items) branches, { state with rest })
    let push (item : Pattern) (rest : List Char) :=
      alternatives nested levels fuel flags branches (some item :: items) { state with rest }
    let repeated (least : Nat) (extra : Option Nat) (rest : List Char) :=
      match items with
      | some item :: items =>
        let (greedy, rest) := lazyMark rest
        alternatives nested levels fuel flags branches
          (some (.repeated item least extra (greedy != flags.swapGreed)) :: items)
          { state with rest }
      | _ => .error .nothingToRepeat
    match flags.skip state.rest with
    | [] => finish []
    | c :: rest =>
      match c with
      | ')' => finish (c :: rest)
      | '|' =>
        alternatives nested levels fuel flags (sequenceOf items :: branches) [] { state with rest }
      | '*' => repeated 0 none rest
      | '+' => repeated 1 none rest
      | '?' => repeated 0 (some 1) rest
      | '{' =>
        match bounds? flags rest with
        | some (least, extra, rest) => repeated least extra (flags.skip rest)
        | none => .error .badCount
      | '[' => do
        let (set, rest) ← charClass flags levels rest
        push (.oneOf set) rest
      | '(' => do
        let (head, inside) ← groupHead flags { state with rest }
        match head with
        | .flags flags => alternatives nested levels fuel flags branches (none :: items) inside
        | .plain inner =>
          let (item, behind) ← nested inner inside
          match behind.rest with
          | ')' :: rest =>
            alternatives nested levels fuel flags branches (some item :: items) { behind with rest }
          | _ => throw .unclosedGroup
        | .capture =>
          let (item, behind) ← nested flags inside
          match behind.rest with
          | ')' :: rest =>
            alternatives nested levels fuel flags branches
              (some (.group inside.groups item) :: items) { behind with rest }
          | _ => throw .unclosedGroup
      | '.' => if flags.unicode then push (.oneOf (dot flags)) rest else .error .badEscape
      | '^' => push (lineAnchor flags .textStart .lineStart .returnLineStart) rest
      | '$' => push (lineAnchor flags .textEnd .lineEnd .returnLineEnd) rest
      | '\\' => do
        let (item, rest) ← escape flags rest
        push (item.toPattern flags) rest
      | c => push ((Item.char c).toPattern flags) rest

def nestedAlternatives : Nat → Flags → State → Except PatternError (Pattern × State)
  | 0, _, _ => .error .tooDeep
  | levels + 1, flags, state =>
    alternatives (nestedAlternatives levels) levels (state.rest.length + 1) flags [] [] state

structure Parsed where
  pattern : Pattern
  names : List (String × Nat)

def parse (text : String) : Except PatternError Parsed := do
  let (pattern, state) ← nestedAlternatives maxNesting Flags.default ⟨text.toList, 0, []⟩
  if state.rest ≠ [] then throw .unopenedGroup
  return ⟨pattern, state.names⟩

end Stencil.Pattern
