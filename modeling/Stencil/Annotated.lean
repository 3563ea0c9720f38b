/-! Contents that may carry a label. Labels are for readers of a template; they are never rendered. -/

namespace Stencil

structure Annotated (α : Type) where
  label : Option String
  content : α
deriving DecidableEq

end Stencil
