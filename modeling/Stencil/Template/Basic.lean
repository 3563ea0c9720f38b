import Stencil.Template.Compile
import Stencil.Template.Evaluate

/-! Templates: a compiled tree and the policy for missing keys that it is rendered with. -/

namespace Stencil

structure Template where
  root : Node
  policy : MissingKeyPolicy

namespace Template

def ofNode (root : Node) : Template :=
  ⟨root, .nullOnMissing⟩

def compile (functions : Functions) (source : String) : Except CompileError Template := do
  let expr ← (Source.parse source).mapError .parse
  return ofNode (← Node.compile functions expr)

def withPolicy (template : Template) (policy : MissingKeyPolicy) : Template :=
  { template with policy }

def renderWith (template : Template) (policy : MissingKeyPolicy) (input : Value) :
    Except EvalError Value :=
  template.root.evaluate policy input

def render (template : Template) (input : Value) : Except EvalError Value :=
  template.renderWith template.policy input

instance : BEq Template where
  beq a b := a.root == b.root && a.policy == b.policy

end Template

end Stencil
