import Stencil.Value

/-! Declared kinds of arguments and results. -/

namespace Stencil

inductive Kind where
  | any
  | bool
  | number
  | string
  | array
  | object
  | optional (inner : Kind)
deriving DecidableEq

namespace Kind

def describe : Kind → String
  | any => "any"
  | bool => "boolean"
  | number => "number"
  | string => "string"
  | array => "array"
  | object => "object"
  | optional inner => "optional " ++ inner.describe

def isNullable : Kind → Bool
  | any => true
  | array => true
  | object => true
  | optional _ => true
  | _ => false

/-- What is passed in place of null: an empty array or object where one is expected. -/
def zero? : Kind → Option Value
  | any => some .null
  | optional _ => some .null
  | array => some (.array [])
  | object => some (.object [])
  | _ => none

def accepts : Kind → Value → Bool
  | any, _ => true
  | kind, .null => kind.isNullable
  | optional inner, value => inner.accepts value
  | bool, .bool _ => true
  | number, .number _ => true
  | string, .string _ => true
  | array, .array _ => true
  | object, .object _ => true
  | _, _ => false

def isWellFormed : Kind → Bool
  | optional (optional _) => false
  | optional any => false
  | _ => true

end Kind

end Stencil
