import Stencil.Json.Document

/-! The library that reads JSON from bytes, by what is used of it. -/

namespace Stencil.Json

/-- The text ends inside a value, or has something in it that JSON does not allow there. -/
inductive Fault where
  | truncated
  | malformed
deriving DecidableEq

/-- What a reader finds in front of some bytes, which may be nothing, and what it leaves of them. -/
structure Next (ν : Type) (bytes : List UInt8) where
  found : Option (Except Fault (Document ν))
  rest : List UInt8
  fewer : ∀ document, found = some (.ok document) → rest.length < bytes.length

/-- One text can be decoded as one document, or as several up to a fault. A source of bytes gives
one document at a time, each to a reader of its own. -/
class Decoder [Numbers] where
  describe : Fault → String
  decode : List UInt8 → Except Fault (Document Numbers.Number)
  documents : List UInt8 → List (Document Numbers.Number) × Option Fault
  next : (bytes : List UInt8) → Next Numbers.Number bytes

export Decoder (decode documents next)

/-- How many arrays and objects a decoder lets enclose one another. -/
def maxDepth : Nat := 127

def textOf? (bytes : List UInt8) : Option String :=
  String.fromUTF8? ⟨bytes.toArray⟩

end Stencil.Json
