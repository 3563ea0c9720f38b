import Stencil.Query.Resolve
import Stencil.Template.Node

/-! Evaluating templates. The result depends only on the template, the input and the policy for
missing keys; a fault anywhere is a fault of the whole. -/

namespace Stencil

inductive MissingKeyPolicy where
  | nullOnMissing
  | errorOnMissing
deriving DecidableEq

def MissingKeyPolicy.tolerates : MissingKeyPolicy → Bool
  | nullOnMissing => true
  | errorOnMissing => false

inductive QueryUse where
  | extraction
  | generation
deriving DecidableEq

def QueryUse.describe : QueryUse → String
  | extraction => "execute query"
  | generation => "generate array"

inductive MissingReason where
  | nullInput (use : QueryUse)
  | unresolved (error : ResolveError)
deriving DecidableEq

def MissingReason.message : MissingReason → String
  | nullInput use => s!"cannot {use.describe}, input is null"
  | unresolved error => error.message

inductive EvalError where
  | missingKey (query : String) (reason : MissingReason)
  | unresolved (query : String) (error : ResolveError)
  | call (error : CallError)

def EvalError.message : EvalError → String
  | missingKey query reason => s!"query '{query}' failed: {reason.message}"
  | unresolved query error => s!"error executing query '{query}': {error.message}"
  | call error => error.message

def Query.select? (query : Query) (use : QueryUse) (policy : MissingKeyPolicy) (input : Value) :
    Except EvalError (Option (List Value)) :=
  if input.isNull then
    match policy with
    | .nullOnMissing => .ok none
    | .errorOnMissing => .error (.missingKey query.text (.nullInput use))
  else
    match query.resolve policy.tolerates input with
    | .ok found => .ok (some found)
    | .error error =>
      if error.isMissing then .error (.missingKey query.text (.unresolved error))
      else .error (.unresolved query.text error)

/-- Null for nothing, a single value for itself, an array for several. -/
def Value.ofMatches : List Value → Value
  | [] => .null
  | [value] => value
  | values => .array values

namespace Node

mutual

def evaluate (policy : MissingKeyPolicy) : Node → Value → Except EvalError Value
  | constant value, _ => .ok value
  | object fields, input => (evaluateFields policy fields input).map fun members =>
    .object (Members.ofList members)
  | array items, input => (evaluateItems policy items input).map .array
  | query q, input => do
    match ← q.select? .extraction policy input with
    | none => return .null
    | some found => return Value.ofMatches found
  | generator range template, input => do
    match ← range.select? .generation policy input with
    | none => return .null
    | some found => return .array (← found.mapM (evaluate policy template))
  | call name function args, input => do
    let values ← evaluateArgs policy name function.signature 0 args input
    (function.invoke name values).mapError .call
termination_by structural node => node

def evaluateItems (policy : MissingKeyPolicy) :
    List Node → Value → Except EvalError (List Value)
  | [], _ => .ok []
  | node :: rest, input => do
    let value ← evaluate policy node input
    return value :: (← evaluateItems policy rest input)
termination_by structural nodes => nodes

def evaluateFields (policy : MissingKeyPolicy) :
    List (String × Annotated Node) → Value → Except EvalError (List (String × Value))
  | [], _ => .ok []
  | (name, ⟨_, node⟩) :: rest, input => do
    let value ← evaluate policy node input
    return (name, value) :: (← evaluateFields policy rest input)
termination_by structural fields => fields

/-- Every argument is coerced before the next one is evaluated. -/
def evaluateArgs (policy : MissingKeyPolicy) (name : String) (signature : Signature)
    (index : Nat) : List Node → Value → Except EvalError (List Value)
  | [], _ => .ok []
  | node :: rest, input => do
    let value ← evaluate policy node input
    let arg ← (signature.coerce name index value).mapError .call
    return arg :: (← evaluateArgs policy name signature (index + 1) rest input)
termination_by structural nodes => nodes

end

end Node

end Stencil
