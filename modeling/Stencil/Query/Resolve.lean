import Stencil.Query.Basic
import Stencil.Value

/-! What a query selects from a value, in document order. A missing member or element is no match;
without tolerance it is an error. Null has no parts, and looking for some in it is never one. -/

namespace Stencil

inductive ResolveError where
  | notFound (name : String)
  | indexOutOfBounds (index : Int) (length : Nat)
  | notAnArray (typeName : String)
deriving DecidableEq

namespace ResolveError

def isMissing : ResolveError → Bool
  | notFound _ => true
  | indexOutOfBounds _ _ => true
  | notAnArray _ => false

def message : ResolveError → String
  | notFound name => s!"key '{name}' not found"
  | indexOutOfBounds index length =>
    s!"array index out of bounds: index {index}, length {length}"
  | notAnArray typeName => s!"cannot index into {typeName}, not an array"

end ResolveError

def position? (index : Int) (length : Nat) : Option Nat :=
  let position := if 0 ≤ index then index else length + index
  if 0 ≤ position ∧ position < length then some position.toNat else none

def clamp (length : Nat) (bound : Int) : Nat :=
  if bound < 0 then (length + bound).toNat else min bound.toNat length

def everyNth {α : Type} (step : { step : Nat // 0 < step }) : List α → List α
  | [] => []
  | item :: rest => item :: everyNth step (rest.drop (step - 1))
termination_by items => items.length

def sliceOf {α : Type} (start stop : Option Int) (step : { step : Nat // 0 < step })
    (items : List α) : List α :=
  let first := (start.map (clamp items.length)).getD 0
  let last := (stop.map (clamp items.length)).getD items.length
  everyNth step ((items.take last).drop first)

namespace Selector

def parts (selector : Selector) (value : Value) : List Value :=
  match selector, value with
  | name key, .object members => (Members.get? key members).toList
  | wildcard, .object members => members.map Prod.snd
  | wildcard, .array items => items
  | index i, .array items =>
    match position? i items.length with
    | some position => items[position]?.toList
    | none => []
  | slice start stop step, .array items => sliceOf start stop step items
  | _, _ => []

def fault? (tolerant : Bool) (selector : Selector) (value : Value) : Option ResolveError :=
  match selector, value with
  | _, .null => none
  | index i, .array items =>
    if tolerant || (position? i items.length).isSome then none
    else some (.indexOutOfBounds i items.length)
  | slice _ _ _, .array _ => none
  | index _, other => some (.notAnArray other.typeName)
  | slice _ _ _, other => some (.notAnArray other.typeName)
  | _, _ => none

def name? : Selector → Option String
  | name key => some key
  | _ => none

end Selector

namespace Value

mutual

def descendants : Value → List Value
  | array items => array items :: itemDescendants items
  | object members => object members :: memberDescendants members
  | value => [value]
termination_by structural value => value

def itemDescendants : List Value → List Value
  | [] => []
  | value :: rest => value.descendants ++ itemDescendants rest
termination_by structural values => values

def memberDescendants : List (String × Value) → List Value
  | [] => []
  | (_, value) :: rest => value.descendants ++ memberDescendants rest
termination_by structural members => members

end

end Value

def selected (selectors : List Selector) (inputs : List Value) : List Value :=
  inputs.flatMap fun input => selectors.flatMap (·.parts input)

def firstFault? (tolerant : Bool) (selectors : List Selector) (inputs : List Value) :
    Option ResolveError :=
  inputs.findSome? fun input => selectors.findSome? (·.fault? tolerant input)

namespace Segment

/-- Goes one step from the inputs. Without tolerance it is an error if names are asked for and
nothing at all is found. -/
def resolve (tolerant : Bool) (inputs : List Value) : Segment → Except ResolveError (List Value)
  | descendant selectors => .ok (selected selectors (inputs.flatMap Value.descendants))
  | child selectors =>
    match firstFault? tolerant selectors inputs with
    | some error => .error error
    | none =>
      let found := selected selectors inputs
      if found.isEmpty && !inputs.isEmpty && !tolerant then
        match selectors.findSome? (·.name?) with
        | some name => .error (.notFound name)
        | none => .ok found
      else .ok found

end Segment

def Query.resolve (query : Query) (tolerant : Bool) (root : Value) :
    Except ResolveError (List Value) :=
  query.segments.foldlM (fun inputs segment => segment.resolve tolerant inputs) [root]

end Stencil
