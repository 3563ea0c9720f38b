import Stencil.Annotated
import Stencil.Function.Basic
import Stencil.Query.Basic

/-! Compiled templates: queries are read and names are resolved to functions. -/

namespace Stencil

inductive Node where
  | constant (value : Value)
  | object (fields : List (String × Annotated Node))
  | array (items : List Node)
  | query (query : Query)
  | generator (range : Query) (template : Node)
  | call (name : String) (function : Function) (args : List Node)

namespace Node

mutual

/-- Equality of templates. Fields count without regard to their order, labels included; a number
that differs from itself makes a constant that does too. -/
protected def beq : Node → Node → Bool
  | constant value, constant other => value == other
  | object fields, object others => fields.length == others.length && beqFields fields others
  | array items, array others => beqItems items others
  | query q, query other => q == other
  | generator range template, generator otherRange other => range == otherRange && template.beq other
  | call name function args, call otherName other otherArgs =>
    name == otherName && function.same other && beqItems args otherArgs
  | _, _ => false
termination_by structural node => node

def beqItems : List Node → List Node → Bool
  | [], [] => true
  | node :: nodes, other :: others => node.beq other && beqItems nodes others
  | _, _ => false
termination_by structural nodes => nodes

def beqFields : List (String × Annotated Node) → List (String × Annotated Node) → Bool
  | [], _ => true
  | (name, ⟨label, node⟩) :: rest, others =>
    (match Members.get? name others with
      | some other => label == other.label && node.beq other.content
      | none => false) && beqFields rest others
termination_by structural fields => fields

end

instance : BEq Node := ⟨Node.beq⟩

end Node

end Stencil
