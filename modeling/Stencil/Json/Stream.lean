import Stencil.Json.Literal
import Stencil.Json.Reader

/-! Texts with one JSON document, and streams of several. -/

namespace Stencil.Json

open Numbers (Number)

def Fault.message : Fault → String
  | truncated => "the text ends inside a value"
  | malformed => "the text is not valid JSON"

def showsEnd (first : UInt8) : Bool :=
  charOf first == '[' || charOf first == '{' || charOf first == '"'

def mayFollow (b : UInt8) : Bool :=
  isSpace b || ['"', '[', ']', '{', '}', ',', ':'].contains (charOf b)

/-- The bytes that a source has left when the byte that is held got lost. -/
def unread (rest : List UInt8) (held : Bool) : List UInt8 :=
  if held then rest.drop 1 else rest

theorem length_unread_le (rest : List UInt8) (held : Bool) :
    (unread rest held).length ≤ rest.length := by
  unfold unread
  split <;> simp

structure Taken [Numbers] (bytes : List UInt8) where
  document : Document Number
  rest : List UInt8
  held : Bool
  fewer : rest.length < bytes.length

namespace Reader

variable [Numbers]

def whole (levels : Nat) (bytes : List UInt8) : Except Fault (Document Number) :=
  match value levels bytes with
  | .error halt => .error halt.fault
  | .ok read => if skipSpace read.rest = [] then .ok read.result else .error .malformed

def decode (bytes : List UInt8) : Except Fault (Document Number) :=
  (whole maxDepth bytes).map Document.merged

def take? (bytes : List UInt8) : Option (Except Halt (Taken bytes)) :=
  match skipSpace bytes with
  | [] => none
  | first :: _ => some <| do
    let read ← value maxDepth bytes
    let document := read.result.merged
    if showsEnd first then return ⟨document, read.rest, false, read.fewer⟩
    else if (read.rest.take 1).all mayFollow then return ⟨document, read.rest, true, read.fewer⟩
    else throw (stopAt read.rest)

def documents (bytes : List UInt8) : List (Document Number) × Option Fault :=
  match take? bytes with
  | none => ([], none)
  | some (.error halt) => ([], some halt.fault)
  | some (.ok taken) =>
    have := taken.fewer
    let (later, fault) := documents taken.rest
    (taken.document :: later, fault)
termination_by bytes.length

def next (bytes : List UInt8) : Next Number bytes :=
  match take? bytes with
  | none => ⟨none, [], by simp⟩
  | some (.error halt) => ⟨some (.error halt.fault), unread halt.rest halt.held, by simp⟩
  | some (.ok taken) =>
    ⟨some (.ok taken.document), unread taken.rest taken.held, fun _ _ =>
      Nat.lt_of_le_of_lt (length_unread_le taken.rest taken.held) taken.fewer⟩

end Reader

@[reducible] def reader [Numbers] : Decoder where
  describe := Fault.message
  decode := Reader.decode
  documents := Reader.documents
  next := Reader.next

instance : Decoder := reader

end Stencil.Json
