/-! Queries: where in a value to look. -/

namespace Stencil

/-- What to take from one value. Indices and bounds below zero count from the end. -/
inductive Selector where
  | name (name : String)
  | wildcard
  | index (index : Int)
  | slice (start stop : Option Int) (step : { step : Nat // 0 < step })
deriving DecidableEq

inductive Segment where
  | child (selectors : List Selector)
  | descendant (selectors : List Selector)
deriving DecidableEq

structure Query where
  text : String
  segments : List Segment
deriving DecidableEq

end Stencil
