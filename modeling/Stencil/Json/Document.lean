import Stencil.Value

/-! JSON documents. What a number of a document is, is up to the library that reads and writes them;
a value without a JSON form loses exactly the numbers for which there is none. -/

namespace Stencil.Json

inductive Document (ν : Type) where
  | null
  | bool (b : Bool)
  | number (n : ν)
  | string (s : String)
  | array (items : List (Document ν))
  | object (members : List (String × Document ν))
deriving Inhabited

/-- The numbers that a library keeps in documents. It makes them of literals and of floating point
numbers, and has floating point numbers for them. -/
class Numbers where
  Number : Type
  ofText? : List Char → Option Number
  ofFloat? : Float → Option Number
  toFloat? : Number → Option Float

namespace Document

variable {ν : Type}

mutual

def valueBy (f : ν → Value) : Document ν → Value
  | null => .null
  | bool b => .bool b
  | number n => f n
  | string s => .string s
  | array items => .array (valuesBy f items)
  | object members => .object (membersBy f members)
termination_by structural document => document

def valuesBy (f : ν → Value) : List (Document ν) → List Value
  | [] => []
  | document :: rest => document.valueBy f :: valuesBy f rest
termination_by structural documents => documents

def membersBy (f : ν → Value) : List (String × Document ν) → List (String × Value)
  | [] => []
  | (name, document) :: rest => (name, document.valueBy f) :: membersBy f rest
termination_by structural members => members

end

def toValue [Numbers] : Document Numbers.Number → Value :=
  valueBy fun n => (Numbers.toFloat? n).elim .null .number

def ofFloat [Numbers] (x : Float) : Document Numbers.Number :=
  (Numbers.ofFloat? x).elim null number

mutual

def ofValue [Numbers] : Value → Document Numbers.Number
  | .null => null
  | .bool b => bool b
  | .number x => ofFloat x
  | .string s => string s
  | .array items => array (ofValues items)
  | .object members => object (ofMembers members)
termination_by structural value => value

def ofValues [Numbers] : List Value → List (Document Numbers.Number)
  | [] => []
  | value :: rest => ofValue value :: ofValues rest
termination_by structural values => values

def ofMembers [Numbers] : List (String × Value) → List (String × Document Numbers.Number)
  | [] => []
  | (name, value) :: rest => (name, ofValue value) :: ofMembers rest
termination_by structural members => members

end

mutual

/-- Of the members with one name, the first one's place and the last one's value count. -/
def merged : Document ν → Document ν
  | null => null
  | bool b => bool b
  | number n => number n
  | string s => string s
  | array items => array (mergedItems items)
  | object members => object (Members.ofList (mergedMembers members))
termination_by structural document => document

def mergedItems : List (Document ν) → List (Document ν)
  | [] => []
  | document :: rest => document.merged :: mergedItems rest
termination_by structural documents => documents

def mergedMembers : List (String × Document ν) → List (String × Document ν)
  | [] => []
  | (name, document) :: rest => (name, document.merged) :: mergedMembers rest
termination_by structural members => members

end

end Document

end Stencil.Json
