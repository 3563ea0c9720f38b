import Stencil.Annotated
import Stencil.Source.Position

/-! Template expressions: JSON, and what stands in for values in a template. -/

namespace Stencil.Source

inductive Expr where
  | null
  | bool (b : Bool)
  | number (x : Float)
  | string (s : String)
  | array (items : List Expr)
  | object (fields : List (String × Annotated Expr))
  | extractor (query : String) (position : Position)
  | generator (query : String) (template : Expr) (position : Position)
  | call (name : String) (args : List Expr) (position : Position)
deriving Inhabited

end Stencil.Source
