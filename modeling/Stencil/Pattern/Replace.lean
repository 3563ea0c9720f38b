import Stencil.Pattern.Engine
import Stencil.Pattern.Match

/-! Replacing every match of a pattern. The replacement may refer to groups as `$1`, `$name` and
`${name}`; `$$` is a dollar sign. -/

namespace Stencil.Pattern

inductive Reference where
  | number (index : Nat)
  | name (name : String)

def isReferenceCharacter (c : Char) : Bool :=
  c.isAlphanum || c == '_'

def reference (name : List Char) : Reference :=
  let digits := if name.head? = some '+' then name.drop 1 else name
  if digits ≠ [] ∧ digits.all Char.isDigit ∧ Number.digitsValue digits < 0x10000000000000000 then
    .number (Number.digitsValue digits)
  else .name (String.ofList name)

def reference? (rest : List Char) : Option (Reference × Nat) :=
  match rest with
  | '{' :: inside =>
    let name := inside.takeWhile (· != '}')
    if name.length < inside.length then some (reference name, name.length + 2) else none
  | _ =>
    let name := rest.takeWhile isReferenceCharacter
    if name = [] then none else some (reference name, name.length)

def expand (groupText : Reference → List Char) : List Char → List Char
  | [] => []
  | '$' :: '$' :: rest => '$' :: expand groupText rest
  | '$' :: rest =>
    match reference? rest with
    | some (target, length) => groupText target ++ expand groupText (rest.drop length)
    | none => '$' :: expand groupText rest
  | c :: rest => c :: expand groupText rest
termination_by rest => rest.length

def groupText (names : List (String × Nat)) (text : List Char) (found : Match)
    (target : Reference) : List Char :=
  let grouped (index : Nat) : List Char :=
    match found.group? index with
    | some (start, stop) => (text.drop start).take (stop - start)
    | none => []
  match target with
  | .number index => grouped index
  | .name name => ((names.lookup name).map grouped).getD []

namespace Compiled

/-- The text from a place on with its matches replaced. An empty match directly behind the last
match does not count. Two steps at most are spent on every character. -/
def replaceFrom (compiled : Compiled) (text replacement : List Char) (lastEnd : Option Nat) :
    Nat → Nat → Option Char → List Char → List Char
  | 0, _, _, rest => rest
  | fuel + 1, position, before, rest =>
    match search compiled.program position before rest with
    | none => rest
    | some found =>
      if found.start = found.stop ∧ lastEnd = some found.start then
        match rest with
        | [] => []
        | c :: rest =>
          c :: compiled.replaceFrom text replacement none fuel (position + 1) (some c) rest
      else
        let taken := rest.take (found.stop - position)
        rest.take (found.start - position) ++
          expand (groupText compiled.names text found) replacement ++
          compiled.replaceFrom text replacement (some found.stop) fuel found.stop
            (taken.getLast? <|> before) (rest.drop taken.length)

def replaceAll (compiled : Compiled) (text replacement : String) : String :=
  let cs := text.toList
  String.ofList
    (compiled.replaceFrom cs replacement.toList none (2 * cs.length + 2) 0 none cs)

end Compiled

instance : Engine where
  Regex := Compiled
  compile pattern := (compile pattern).mapError PatternError.message
  isMatch := Compiled.isMatch
  replaceAll := Compiled.replaceAll

end Stencil.Pattern
