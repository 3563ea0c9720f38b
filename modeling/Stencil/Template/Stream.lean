import Stencil.Json.Decoder
import Stencil.Template.Basic

/-! Rendering a stream of JSON documents to one line of JSON each. Every document is read by a reader
of its own. -/

namespace Stencil

inductive Input where
  | bytes (bytes : List UInt8)
  | broken (reason : String)

/-- Where bytes go. With limited room, what does not fit is cut off. -/
structure Sink where
  written : List UInt8
  room : Option Nat
deriving DecidableEq

namespace Sink

def unlimited : Sink := ⟨[], none⟩

def limited (room : Nat) : Sink := ⟨[], some room⟩

def write (sink : Sink) (bytes : List UInt8) : Sink × Bool :=
  match sink.room with
  | none => (⟨sink.written ++ bytes, none⟩, true)
  | some room =>
    (⟨sink.written ++ bytes.take room, some (room - bytes.length)⟩, bytes.length ≤ room)

end Sink

inductive DecodeError where
  | fault (fault : Json.Fault)
  | input (reason : String)

section

variable [Json.Numbers] [Json.Decoder]

def DecodeError.message : DecodeError → String
  | .fault found => Json.Decoder.describe found
  | .input reason => reason

inductive RenderError where
  | compile (error : CompileError)
  | eval (error : EvalError)
  | decode (error : DecodeError)
  | transfer (reason : String)

def RenderError.message : RenderError → String
  | compile error => error.message
  | eval error => "while rendering: " ++ error.message
  | decode error => "invalid input: " ++ error.message
  | transfer reason => "I/O error: " ++ reason

end

def notUtf8 : String := "stream did not contain valid UTF-8"

def sinkFull : String := "closed"

/-- What one step of a stream leads to: whether there was a document, what is left to read, and what
has been written. -/
structure Progress (bytes : List UInt8) where
  outcome : Except RenderError Bool
  rest : List UInt8
  sink : Sink
  fewer : outcome = .ok true → rest.length < bytes.length

namespace Template

def read (functions : Functions) : Input → Except RenderError Template
  | .broken reason => .error (.transfer reason)
  | .bytes bytes =>
    match Json.textOf? bytes with
    | none => .error (.transfer notUtf8)
    | some source => (compile functions source).mapError .compile

def line (value : Value) : List UInt8 :=
  (Json.compact value ++ "\n").toUTF8.toList

variable [Json.Numbers]

/-- Renders the document that was found. Nothing is written unless it renders. -/
def renderFound (template : Template)
    (found : Option (Except Json.Fault (Json.Document Json.Numbers.Number))) (sink : Sink) :
    Except RenderError Bool × Sink :=
  match found with
  | none => (.ok false, sink)
  | some (.error fault) => (.error (.decode (.fault fault)), sink)
  | some (.ok document) =>
    match template.render document.toValue with
    | .error error => (.error (.eval error), sink)
    | .ok value =>
      let (sink, fitted) := sink.write (line value)
      (if fitted then .ok true else .error (.transfer sinkFull), sink)

theorem renderFound_wrote {template : Template}
    {found : Option (Except Json.Fault (Json.Document Json.Numbers.Number))} {sink : Sink}
    (wrote : (template.renderFound found sink).1 = .ok true) :
    ∃ document, found = some (.ok document) := by
  cases found with
  | none => cases wrote
  | some outcome =>
      cases outcome with
      | error fault => cases wrote
      | ok document => exact ⟨document, rfl⟩

variable [Json.Decoder]

def renderNext (template : Template) (bytes : List UInt8) (sink : Sink) : Progress bytes :=
  let next := Json.next bytes
  let result := template.renderFound next.found sink
  ⟨result.1, next.rest, result.2, fun wrote => (renderFound_wrote wrote).elim next.fewer⟩

def renderFrom (template : Template) (input : Input) (sink : Sink) :
    Except RenderError Bool × Sink :=
  match input with
  | .broken reason => (.error (.decode (.input reason)), sink)
  | .bytes bytes =>
    let progress := template.renderNext bytes sink
    (progress.outcome, progress.sink)

def renderAll (template : Template) (bytes : List UInt8) (sink : Sink) (count : Nat) :
    Except RenderError Nat × Sink :=
  let progress := template.renderNext bytes sink
  match more : progress.outcome with
  | .ok true => template.renderAll progress.rest progress.sink (count + 1)
  | .ok false => (.ok count, progress.sink)
  | .error error => (.error error, progress.sink)
termination_by bytes.length
decreasing_by exact progress.fewer more

end Template

end Stencil
