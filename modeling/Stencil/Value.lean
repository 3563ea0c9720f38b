import Stencil.Members

/-! JSON-shaped values: what templates read and what they render. Members keep their order, and all
numbers are floating point, so a value may hold numbers that JSON cannot write. -/

namespace Stencil

inductive Value where
  | null
  | bool (b : Bool)
  | number (x : Float)
  | string (s : String)
  | array (items : List Value)
  | object (members : List (String × Value))
deriving Inhabited

namespace Value

def isNull : Value → Bool
  | null => true
  | _ => false

def bool? : Value → Option Bool
  | bool b => some b
  | _ => none

def number? : Value → Option Float
  | number x => some x
  | _ => none

def string? : Value → Option String
  | string s => some s
  | _ => none

def items? : Value → Option (List Value)
  | array items => some items
  | _ => none

def members? : Value → Option (List (String × Value))
  | object members => some members
  | _ => none

def typeName : Value → String
  | null => "null"
  | bool _ => "boolean"
  | number _ => "number"
  | string _ => "string"
  | array _ => "array"
  | object _ => "object"

mutual

/-- Equality of values: numbers compare as numbers, members without regard to their order. -/
protected def beq : Value → Value → Bool
  | null, null => true
  | bool a, bool b => a == b
  | number x, number y => x == y
  | string s, string t => s == t
  | array items, array others => beqItems items others
  | object members, object others =>
    members.length == others.length && beqMembers members others
  | _, _ => false
termination_by structural value => value

def beqItems : List Value → List Value → Bool
  | [], [] => true
  | value :: values, other :: others => value.beq other && beqItems values others
  | _, _ => false
termination_by structural values => values

def beqMembers : List (String × Value) → List (String × Value) → Bool
  | [], _ => true
  | (name, value) :: rest, others =>
    (match Members.get? name others with
      | some other => value.beq other
      | none => false) && beqMembers rest others
termination_by structural members => members

end

instance : BEq Value := ⟨Value.beq⟩

mutual

def depth : Value → Nat
  | array items => depthItems items + 1
  | object members => depthMembers members + 1
  | _ => 0
termination_by structural value => value

def depthItems : List Value → Nat
  | [] => 0
  | value :: values => max value.depth (depthItems values)
termination_by structural values => values

def depthMembers : List (String × Value) → Nat
  | [] => 0
  | (_, value) :: rest => max value.depth (depthMembers rest)
termination_by structural members => members

end

end Value

end Stencil
