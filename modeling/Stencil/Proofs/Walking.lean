import Stencil.Proofs.Json.Lines
import Stencil.Proofs.Streaming

/-! Walking a stream by calls that know nothing of each other. How far the stream has been read
depends on its documents alone, so each call finds the next one, whatever came of those before. -/

namespace Stencil

open Json (Blank Document Finds ReadsSources StreamText encode)
open Json.Numbers (Number)

theorem Sink.write_fitted {sink : Sink} {bytes : List UInt8}
    (fitted : (sink.write bytes).2 = true) :
    (sink.write bytes).1.written = sink.written ++ bytes := by
  obtain ⟨written, room⟩ := sink
  cases room with
  | none => rfl
  | some room =>
      have short : bytes.length ≤ room := of_decide_eq_true fitted
      simp only [Sink.write, List.take_of_length_le short]

namespace Template

structure Call where
  template : Template
  sink : Sink

section

variable [Json.Numbers]

/-- What a call should do with a document: write its line, or nothing if it does not render. -/
def Call.answer (call : Call) (document : Document Number) : Except RenderError Bool × Sink :=
  match call.template.render document.toValue with
  | .error error => (.error (.eval error), call.sink)
  | .ok value =>
    let written := call.sink.write (line value)
    (if written.2 then .ok true else .error (.transfer sinkFull), written.1)

theorem answer_rendered {call : Call} {document : Document Number} {value : Value} {sink : Sink}
    {fitted : Bool} (rendered : call.template.render document.toValue = .ok value)
    (wrote : call.sink.write (line value) = (sink, fitted)) :
    call.answer document = (if fitted then .ok true else .error (.transfer sinkFull), sink) := by
  rw [Call.answer, rendered]
  dsimp only
  rw [wrote]

theorem answer_untouched {call : Call} {document : Document Number}
    (silent : (call.answer document).1 = .ok false ∨
      (∃ error, (call.answer document).1 = .error (.decode error)) ∨
      ∃ error, (call.answer document).1 = .error (.eval error)) :
    (call.answer document).2 = call.sink := by
  unfold Call.answer at silent ⊢
  split
  next => rfl
  next value rendered =>
    rw [rendered] at silent
    dsimp only at silent
    split at silent <;> simp at silent

theorem answer_line {call : Call} {document : Document Number}
    (wrote : (call.answer document).1 = .ok true) :
    ∃ value, call.template.render document.toValue = .ok value ∧
      (call.answer document).2.written = call.sink.written ++ line value := by
  unfold Call.answer at wrote ⊢
  split
  next failed =>
    rw [failed] at wrote
    cases wrote
  next value rendered =>
    rw [rendered] at wrote
    dsimp only at wrote
    split at wrote
    next fitted => exact ⟨value, rendered, Sink.write_fitted fitted⟩
    next => cases wrote

variable [Json.Decoder]

def Call.result (call : Call) (input : Input) : Except RenderError Bool × Sink :=
  call.template.renderFrom input call.sink

def walk (bytes : List UInt8) : List Call → List (Except RenderError Bool × Sink)
  | [] => []
  | call :: later =>
    call.result (.bytes bytes) :: walk (call.template.renderNext bytes call.sink).rest later

theorem result_eq (call : Call) (bytes : List UInt8) :
    call.result (.bytes bytes) = match (Json.next bytes).found with
      | none => (.ok false, call.sink)
      | some (.error fault) => (.error (.decode (.fault fault)), call.sink)
      | some (.ok document) => call.answer document := by
  dsimp only [Call.result, renderFrom, renderNext]
  cases (Json.next bytes).found with
  | none => rfl
  | some outcome =>
      cases outcome with
      | error fault => rfl
      | ok document => rfl

/-- How far the bytes are read does not depend on what comes of a call. -/
theorem walk_cons (call : Call) (later : List Call) (bytes : List UInt8) :
    walk bytes (call :: later) = call.result (.bytes bytes) :: walk (Json.next bytes).rest later :=
  rfl

theorem walk_finds {bytes left : List UInt8} {documents : List (Document Number)}
    (finds : Finds bytes documents left) (calls : List Call) :
    walk bytes calls =
      List.zipWith Call.answer calls documents ++ walk left (calls.drop documents.length) := by
  induction finds generalizing calls with
  | done => simp
  | more found _ ih =>
      cases calls with
      | nil => rfl
      | cons call later =>
          rw [walk_cons, result_eq, found, ih]
          rfl

theorem walk_blank (sources : ReadsSources) {text : List Char} (blank : Blank text)
    (calls : List Call) :
    walk (encode text) calls = calls.map fun call => (.ok false, call.sink) := by
  induction calls generalizing text with
  | nil => rfl
  | cons call later ih =>
      obtain ⟨nothing, rest⟩ := sources.blank blank
      rw [walk_cons, result_eq, nothing, rest, List.map_cons, ← ih Json.blank_nil]
      rfl

theorem walk_stream (sources : ReadsSources) {behind text : List Char}
    {documents : List (Document Number)} (stream : StreamText behind text documents)
    (blank : Blank behind) (calls : List Call) :
    walk (encode text) calls = List.zipWith Call.answer calls documents ++
      (calls.drop documents.length).map fun call => (.ok false, call.sink) := by
  obtain ⟨gap, left, _, rfl, finds⟩ := sources.finds stream
  rw [walk_finds finds, walk_blank sources blank.behind]

theorem result_untouched {call : Call} {input : Input}
    (silent : (call.result input).1 = .ok false ∨
      (∃ error, (call.result input).1 = .error (.decode error)) ∨
      ∃ error, (call.result input).1 = .error (.eval error)) :
    (call.result input).2 = call.sink := by
  cases input with
  | broken reason => rfl
  | bytes bytes =>
      rw [result_eq] at silent ⊢
      split
      next => rfl
      next => rfl
      next found =>
        rw [found] at silent
        exact answer_untouched silent

theorem result_line {call : Call} {input : Input} (wrote : (call.result input).1 = .ok true) :
    ∃ bytes document value, input = .bytes bytes ∧
      (Json.next bytes).found = some (.ok document) ∧
      call.template.render document.toValue = .ok value ∧
      (call.result input).2.written = call.sink.written ++ line value := by
  cases input with
  | broken reason => cases wrote
  | bytes bytes =>
      rw [result_eq] at wrote ⊢
      split
      next nothing =>
        rw [nothing] at wrote
        cases wrote
      next failed =>
        rw [failed] at wrote
        cases wrote
      next document found =>
        rw [found] at wrote
        obtain ⟨value, rendered, written⟩ := answer_line wrote
        exact ⟨bytes, document, value, rfl, found, rendered, written⟩

/-- Calls on a stream lose no document and repeat none, whatever their templates and sinks are and
whatever comes of them, and behind the last one they report the end, provided that a reader takes
from a source what it should. A call writes one line or leaves its sink alone, unless the sink
itself fails. -/
theorem walk_exact (sources : ReadsSources) {text : String} {behind : List Char}
    {documents : List (Document Number)} (stream : StreamText behind text.toList documents)
    (blank : Blank behind) :
    (∀ calls, walk text.toUTF8.toList calls = List.zipWith Call.answer calls documents ++
      (calls.drop documents.length).map fun call => (.ok false, call.sink)) ∧
    (∀ (call : Call) (input : Input), (call.result input).1 = .ok false ∨
      (∃ error, (call.result input).1 = .error (.decode error)) ∨
      (∃ error, (call.result input).1 = .error (.eval error)) →
      (call.result input).2 = call.sink) ∧
    ∀ (call : Call) (input : Input), (call.result input).1 = .ok true →
      ∃ bytes document value, input = .bytes bytes ∧
        (Json.next bytes).found = some (.ok document) ∧
        call.template.render document.toValue = .ok value ∧
        (call.result input).2.written =
          call.sink.written ++ (Json.compact value ++ "\n").toUTF8.toList ∧
        ∀ c ∈ (Json.compact value).toList, Unicode.isControl c = false := by
  refine ⟨?_, fun call input => result_untouched, ?_⟩
  · intro calls
    rw [Json.toUTF8_toList]
    exact walk_stream sources stream blank calls
  · intro call input wrote
    obtain ⟨bytes, document, value, same, first, rendered, written⟩ := result_line wrote
    exact ⟨bytes, document, value, same, first, rendered, written, Json.compact_visible value⟩

end

theorem walk_exact_failing :
    let strict : Template := ⟨.query ⟨"$", []⟩, .errorOnMissing⟩
    StreamText [' '] "null [] true ".toList [.null, .array [], .bool true] ∧
    walk "null [] true ".toUTF8.toList
        [⟨strict, .unlimited⟩, ⟨strict, .limited 1⟩, ⟨strict, .unlimited⟩, ⟨strict, .limited 0⟩] =
      [(.error (.eval (.missingKey "$" (.nullInput .extraction))), .unlimited),
        (.error (.transfer sinkFull), ⟨"[".toUTF8.toList, some 0⟩),
        (.ok true, ⟨"true\n".toUTF8.toList, none⟩), (.ok false, .limited 0)] := by
  intro strict
  have isNull : Json.Decoded ['n', 'u', 'l', 'l'] .null :=
    ⟨.null, .null, Nat.zero_le _, rfl⟩
  have array : Json.Decoded ['[', ']'] (.array []) :=
    ⟨.array [], .array (.empty Json.blank_nil), Nat.succ_pos _, rfl⟩
  have isTrue : Json.Decoded ['t', 'r', 'u', 'e'] (.bool true) :=
    ⟨.bool true, .isTrue, Nat.zero_le _, rfl⟩
  have space : Blank [' '] := by simp [Blank, Json.isBlank]
  have apart : ∀ rest, Json.Apart (' ' :: rest) := by simp [Json.Apart, Json.isBlank]
  have stream : StreamText [' '] "null [] true ".toList [.null, .array [], .bool true] :=
    .more Json.blank_nil isNull (fun _ => apart _)
      (.more space array (fun _ => apart _) (.more space isTrue (fun _ => apart _) .done))
  refine ⟨stream, ?_⟩
  rw [(walk_exact Json.reader_readsSources stream space).1]
  have cut : (Sink.limited 1).write (line (.array [])) = (⟨"[".toUTF8.toList, some 0⟩, false) := by
    decide +kernel
  have whole : Sink.unlimited.write (line (.bool true)) =
      (⟨"true\n".toUTF8.toList, none⟩, true) := by
    decide +kernel
  have first : Call.answer ⟨strict, .unlimited⟩ .null =
      (.error (.eval (.missingKey "$" (.nullInput .extraction))), .unlimited) := rfl
  have second : Call.answer ⟨strict, .limited 1⟩ (.array []) =
      (if false then .ok true else .error (.transfer sinkFull), _) := answer_rendered rfl cut
  have third : Call.answer ⟨strict, .unlimited⟩ (.bool true) =
      (if true then .ok true else .error (.transfer sinkFull), _) := answer_rendered rfl whole
  simp only [List.zipWith_cons_cons, first, second, third]
  rfl

end Template
end Stencil
