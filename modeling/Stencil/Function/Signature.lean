import Stencil.Function.Kind
import Stencil.Json.Printer

/-! Signatures, and what may go wrong with a call. -/

namespace Stencil

structure Signature where
  params : List Kind
  variadic : Option Kind
  returns : Kind
deriving DecidableEq

/-- Errors name the function as the template does, and count arguments from one. -/
inductive CallError where
  | nullArgument (function : String) (position : Nat) (expected : Kind)
  | wrongArgument (function : String) (position : Nat) (expected : Kind) (value : Value)
  | extraArgument (function : String) (position : Nat)
  | failure (function : String) (reason : String)
  | wrongResult (function : String) (expected : Kind) (actual : String)

def CallError.message : CallError → String
  | nullArgument function position expected =>
    s!"cannot pass null as argument {position} of {function}, expecting {expected.describe}"
  | wrongArgument function position expected value =>
    s!"cannot pass {Json.compact value} ({value.typeName}) as argument {position} of {function}, " ++
      s!"expecting {expected.describe}"
  | extraArgument function position => s!"{function}: unexpected argument {position}"
  | failure function reason => s!"{function}: {reason}"
  | wrongResult function expected actual =>
    s!"{function} returned {actual}, expecting {expected.describe}"

namespace Signature

def isWellFormed (signature : Signature) : Bool :=
  (signature.params ++ signature.variadic.toList ++ [signature.returns]).all Kind.isWellFormed

def acceptsArity (signature : Signature) (count : Nat) : Bool :=
  if signature.variadic.isSome then signature.params.length ≤ count
  else count == signature.params.length

def describeArity (signature : Signature) : String :=
  if signature.variadic.isSome then s!"at least {signature.params.length}"
  else s!"{signature.params.length}"

def expected? (signature : Signature) (index : Nat) : Option Kind :=
  signature.params[index]? <|> signature.variadic

def coerce (signature : Signature) (function : String) (index : Nat) (value : Value) :
    Except CallError Value :=
  match signature.expected? index with
  | none => .error (.extraArgument function (index + 1))
  | some expected =>
    if value.isNull then
      match expected.zero? with
      | some zero => .ok zero
      | none => .error (.nullArgument function (index + 1) expected)
    else if expected.accepts value then .ok value
    else .error (.wrongArgument function (index + 1) expected value)

end Signature

end Stencil
