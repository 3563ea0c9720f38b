import Stencil.Proofs.Streaming

/-! Streams into sinks with limited room. A run reads, renders and writes as it would with unlimited
room up to the byte that does not fit, so all that such a sink changes is where the output ends. -/

namespace Stencil

namespace Sink

theorem write_nil (sink : Sink) : sink.write [] = (sink, true) := by
  obtain ⟨written, room⟩ := sink
  cases room with
  | none => simp [write]
  | some room => simp [write]

theorem write_append (sink : Sink) (first second : List UInt8) :
    sink.write (first ++ second) =
      if (sink.write first).2 then (sink.write first).1.write second
      else ((sink.write first).1, false) := by
  obtain ⟨written, room⟩ := sink
  cases room with
  | none => simp [write]
  | some room =>
      by_cases fits : first.length ≤ room
      · have whole : first.take room = first := List.take_of_length_le fits
        have bound : first.length + second.length ≤ room ↔ second.length ≤ room - first.length := by
          omega
        simp [write, fits, List.take_append, whole, bound, Nat.sub_sub]
      · have full : room - first.length = 0 := by omega
        have tooLong : ¬first.length + second.length ≤ room := by omega
        have left : room - (first.length + second.length) = 0 := by omega
        simp [write, fits, List.take_append, full, tooLong, left]

/-- A sink takes bytes piece by piece, of whatever size, until all are taken or no room is left. -/
inductive Accepts : Sink → List UInt8 → Sink × Bool → Prop
  | all {sink} : Accepts sink [] (sink, true)
  | full {written b rest} : Accepts ⟨written, some 0⟩ (b :: rest) (⟨written, some 0⟩, false)
  | piece {sink piece rest outcome} : piece ≠ [] → (sink.write piece).2 = true →
      Accepts (sink.write piece).1 rest outcome → Accepts sink (piece ++ rest) outcome

theorem Accepts.outcome {sink : Sink} {bytes : List UInt8} {outcome : Sink × Bool}
    (accepts : Accepts sink bytes outcome) : sink.write bytes = outcome := by
  induction accepts with
  | all => exact write_nil _
  | full => simp [write]
  | piece _ fits _ ih => rw [write_append, fits, if_pos rfl, ih]

theorem accepts_fitting {sink : Sink} {bytes : List UInt8} (fits : (sink.write bytes).2 = true) :
    Accepts sink bytes (sink.write bytes) := by
  cases bytes with
  | nil =>
      rw [write_nil]
      exact .all
  | cons b rest =>
      have whole : Accepts sink ((b :: rest) ++ []) ((sink.write (b :: rest)).1, true) :=
        .piece (List.cons_ne_nil b rest) fits .all
      rw [List.append_nil, ← fits] at whole
      exact whole

theorem Accepts.append {sink middle : Sink} {first second : List UInt8} {outcome : Sink × Bool}
    (front : Accepts sink first (middle, true)) (back : Accepts middle second outcome) :
    Accepts sink (first ++ second) outcome := by
  generalize ended : (middle, true) = between at front
  induction front with
  | all =>
      cases ended
      exact back
  | full => cases ended
  | piece some fits _ ih =>
      rw [List.append_assoc]
      exact .piece some fits (ih ended)

theorem accepts_write (sink : Sink) (bytes : List UInt8) : Accepts sink bytes (sink.write bytes) := by
  by_cases fits : (sink.write bytes).2 = true
  · exact accepts_fitting fits
  · obtain ⟨written, room⟩ := sink
    cases room with
    | none => simp [write] at fits
    | some room =>
        simp only [write, decide_eq_true_eq, Nat.not_le] at fits
        have taken : write ⟨written, some room⟩ (bytes.take room) =
            (⟨written ++ bytes.take room, some 0⟩, true) := by
          simp [write, List.take_take, Nat.min_eq_left (Nat.le_of_lt fits)]
        have outcome : write ⟨written, some room⟩ bytes =
            (⟨written ++ bytes.take room, some 0⟩, false) := by
          have left : room - bytes.length = 0 := by omega
          simp [write, left, fits]
        obtain ⟨b, more, rest⟩ : ∃ b more, bytes.drop room = b :: more :=
          List.exists_cons_of_ne_nil (by simpa using fits)
        have accepted : (write ⟨written, some room⟩ (bytes.take room)).2 = true := by rw [taken]
        have front := accepts_fitting accepted
        rw [taken] at front
        have back : Accepts ⟨written ++ bytes.take room, some 0⟩ (bytes.drop room)
            (⟨written ++ bytes.take room, some 0⟩, false) := by
          rw [rest]
          exact .full
        have whole := front.append back
        rwa [List.take_append_drop, ← outcome] at whole

theorem accepts_iff {sink : Sink} {bytes : List UInt8} {outcome : Sink × Bool} :
    Accepts sink bytes outcome ↔ sink.write bytes = outcome := by
  constructor
  · exact Accepts.outcome
  · rintro rfl
    exact accepts_write sink bytes

end Sink

namespace Template

/-- What a run comes to when its output goes to a sink. -/
def deliver (sink : Sink) (run : Except RenderError Nat × Sink) : Except RenderError Nat × Sink :=
  match sink.write run.2.written with
  | (sink, true) => (run.1, sink)
  | (sink, false) => (.error (.transfer sinkFull), sink)

theorem deliver_silent (sink : Sink) (result : Except RenderError Nat) :
    deliver sink (result, .unlimited) = (result, sink) := by
  simp only [deliver, Sink.unlimited, Sink.write_nil]

theorem deliver_behind (sink : Sink) (before : List UInt8) (run : Except RenderError Nat × Sink) :
    deliver sink (deliver ⟨before, none⟩ run) =
      if (sink.write before).2 then deliver (sink.write before).1 run
      else (.error (.transfer sinkFull), (sink.write before).1) := by
  have joined : deliver ⟨before, none⟩ run = (run.1, ⟨before ++ run.2.written, none⟩) := rfl
  rw [joined, deliver, Sink.write_append]
  by_cases fits : (sink.write before).2 = true
  · simp only [fits, if_true]
    rfl
  · simp [fits]

variable [Json.Numbers] [Json.Decoder]

theorem renderAll_deliver (template : Template) (bytes : List UInt8) (sink : Sink) (count : Nat) :
    template.renderAll bytes sink count =
      deliver sink (template.renderAll bytes .unlimited count) := by
  generalize size : bytes.length = length
  induction length using Nat.strongRecOn generalizing bytes sink count with
  | ind length ih =>
      rw [renderAll_eq template bytes sink, renderAll_eq template bytes .unlimited]
      cases found : (Json.next bytes).found with
      | none => exact (deliver_silent sink _).symm
      | some outcome =>
          cases outcome with
          | error fault => exact (deliver_silent sink _).symm
          | ok document =>
              dsimp only
              cases template.render document.toValue with
              | error error => exact (deliver_silent sink _).symm
              | ok value =>
                  have fewer := (Json.next bytes).fewer document found
                  have later := fun sink =>
                    ih _ (size ▸ fewer) (Json.next bytes).rest sink (count + 1) rfl
                  have behind := deliver_behind sink (line value)
                    (template.renderAll (Json.next bytes).rest .unlimited (count + 1))
                  rw [← later, ← later] at behind
                  exact behind.symm

end Template

/-- A sink with limited room cuts off what is written to it and changes nothing else. The stream
writes the first bytes of what it would write with unlimited room; its result is the same where all
of them fit, and the failure of the sink where they do not. In which pieces the sink takes them does
not matter. -/
theorem Command.stream_truncates [Json.Numbers] [Json.Decoder] (template : Template)
    (bytes : List UInt8) (room : Nat) :
    let full := Command.stream template bytes .unlimited
    let cut := Command.stream template bytes (.limited room)
    cut.2.written = full.2.written.take (min room full.2.written.length) ∧
    (full.2.written.length ≤ room → cut.1 = full.1) ∧
    (room < full.2.written.length → cut.1 = .error (.transfer sinkFull)) ∧
    ∀ sink line outcome, Sink.Accepts sink line outcome ↔ sink.write line = outcome := by
  have run := template.renderAll_deliver bytes (.limited room) 0
  unfold Command.stream
  rw [run]
  generalize template.renderAll bytes .unlimited 0 = full
  obtain ⟨result, sink⟩ := full
  by_cases fits : sink.written.length ≤ room
  · have exceeds : ¬room < sink.written.length := Nat.not_lt.mpr fits
    have whole := List.take_of_length_le fits
    simp [Template.deliver, Sink.limited, Sink.write, fits, exceeds, whole, Sink.accepts_iff]
  · have exceeds : room < sink.written.length := Nat.not_le.mp fits
    simp [Template.deliver, Sink.limited, Sink.write, fits, exceeds, Sink.accepts_iff,
      Except.mapError, CommandError.ofRender]

end Stencil
