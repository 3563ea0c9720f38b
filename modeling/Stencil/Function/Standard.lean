import Stencil.Function.Basic
import Stencil.Number.FixedPoint
import Stencil.Pattern.Engine
import Stencil.Unicode.Casing

/-! The standard functions. Their bodies check the arguments again, because a call that was built by
hand may not keep to the signature. -/

namespace Stencil.Standard

open Pattern (Engine)

variable [Engine]

abbrev Body := List Value → Except String Value

def stringArg (args : List Value) (index : Nat) : Except String String :=
  match args[index]? with
  | some (.string s) => .ok s
  | _ => .error s!"argument {index + 1} must be a string"

def arrayArg (args : List Value) (index : Nat) : Except String (List Value) :=
  match args[index]? with
  | some (.array items) => .ok items
  | _ => .error s!"argument {index + 1} must be an array"

def patternArg (args : List Value) (index : Nat) : Except String Engine.Regex := do
  (Engine.compile (← stringArg args index)).mapError fun reason => "invalid regex: " ++ reason

def onString (f : String → String) : Body := fun args => do
  return .string (f (← stringArg args 0))

def ofCount (n : Nat) : Value :=
  .number (Number.FixedPoint.whole n)

def length : Body := fun args =>
  match args.head? with
  | none => .ok (ofCount 0)
  | some .null => .ok (ofCount 0)
  | some (.string s) => .ok (ofCount s.toList.length)
  | some (.array items) => .ok (ofCount items.length)
  | some (.object members) => .ok (ofCount members.length)
  | some other => .error s!"length of {other.typeName} is undefined"

def coalesce : Body := fun args =>
  .ok ((args.find? fun value => !value.isNull).getD .null)

def orElse : Body := fun args =>
  .ok <|
    match args with
    | [.null, fallback] => fallback
    | [value, _] => value
    | _ => .null

def numbersOf (items : List Value) : List Float :=
  items.filterMap Value.number?

def sum : Body := fun args => do
  return .number (Number.sum (numbersOf (← arrayArg args 0)))

def avg : Body := fun args => do
  return ((Number.mean (numbersOf (← arrayArg args 0))).map Value.number).getD .null

def joinedText : Value → String
  | .string s => s
  | value => Json.compact value

def join : Body := fun args => do
  let separator ← stringArg args 1
  let items ← arrayArg args 0
  return .string (separator.intercalate (items.map joinedText))

def isMatch : Body := fun args => do
  let compiled ← patternArg args 1
  return .bool (Engine.isMatch compiled (← stringArg args 0))

def replace : Body := fun args => do
  let compiled ← patternArg args 1
  let text ← stringArg args 0
  return .string (Engine.replaceAll compiled text (← stringArg args 2))

def keys : Body := fun args =>
  match args.head? with
  | some (.object members) => .ok (.array ((Members.keys members).map Value.string))
  | _ => .error "expected an object"

def definitions : List (String × Signature × Body) := [
  ("to_upper", ⟨[.string], none, .string⟩, onString Unicode.toUpper),
  ("to_lower", ⟨[.string], none, .string⟩, onString Unicode.toLower),
  ("trim", ⟨[.string], none, .string⟩, onString Unicode.trim),
  ("length", ⟨[.any], none, .number⟩, length),
  ("coalesce", ⟨[], some .any, .any⟩, coalesce),
  ("default", ⟨[.any, .any], none, .any⟩, orElse),
  ("sum", ⟨[.array], none, .number⟩, sum),
  ("avg", ⟨[.array], none, .optional .number⟩, avg),
  ("join", ⟨[.array, .string], none, .string⟩, join),
  ("matches", ⟨[.string, .string], none, .bool⟩, isMatch),
  ("replace", ⟨[.string, .string, .string], none, .string⟩, replace),
  ("keys", ⟨[.object], none, .array⟩, keys)]

def functions (firstTag : Nat) : Functions :=
  definitions.zipIdx.map fun ((name, signature, body), index) =>
    (name, .function ⟨firstTag + index, signature, body⟩)

end Stencil.Standard
