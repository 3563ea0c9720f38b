import Stencil.Function.Signature

/-! Functions that templates may call, and the names they go by. -/

namespace Stencil

/-- The tag tells functions with the same signature apart: two functions are the same when both
agree. -/
structure Function where
  tag : Nat
  signature : Signature
  body : List Value → Except String Value

namespace Function

def same (a b : Function) : Bool :=
  a.tag == b.tag && a.signature == b.signature

def invoke (function : Function) (name : String) (args : List Value) : Except CallError Value :=
  match function.body args with
  | .error reason => .error (.failure name reason)
  | .ok result =>
    if function.signature.returns.accepts result then .ok result
    else .error (.wrongResult name function.signature.returns result.typeName)

end Function

inductive Binding where
  | function (function : Function)
  | value (value : Value)

abbrev Functions := List (String × Binding)

end Stencil
