import Mathlib.Data.List.Forall2
import Stencil.Command.Run
import Stencil.Proofs.Json.Stream
import Stencil.Proofs.Outcome

/-! Rendering a stream of documents one by one does what rendering all of its text does. A fresh
reader starts behind each document, but what it does not see is white space at most. -/

namespace Stencil

open Json (Blank Document Finds ReadsSources ReadsStreams ReadsTexts StreamText encode)
open Json.Numbers (Number)

namespace Template

section

variable [Json.Numbers]

/-- What documents render to, one by one. -/
def Renders (template : Template) : List (Document Number) → List Value → Prop :=
  List.Forall₂ fun document value => template.render document.toValue = .ok value

variable [Json.Decoder]

theorem renderAll_eq (template : Template) (bytes : List UInt8) (sink : Sink) (count : Nat) :
    template.renderAll bytes sink count = match (Json.next bytes).found with
      | none => (.ok count, sink)
      | some (.error fault) => (.error (.decode (.fault fault)), sink)
      | some (.ok document) =>
        match template.render document.toValue with
        | .error error => (.error (.eval error), sink)
        | .ok value =>
          let written := sink.write (line value)
          if written.2 then template.renderAll (Json.next bytes).rest written.1 (count + 1)
          else (.error (.transfer sinkFull), written.1) := by
  rw [renderAll]
  dsimp only [renderNext]
  cases (Json.next bytes).found with
  | none => rfl
  | some outcome =>
      cases outcome with
      | error fault => rfl
      | ok document =>
          dsimp only [renderFound]
          cases template.render document.toValue with
          | error error => rfl
          | ok value =>
              dsimp only
              cases (sink.write (line value)).2 <;> rfl

theorem renderAll_finds (template : Template) {bytes left : List UInt8}
    {documents : List (Document Number)} {outputs : List Value}
    (finds : Finds bytes documents left) (renders : template.Renders documents outputs)
    (written : List UInt8) (count : Nat) :
    template.renderAll bytes ⟨written, none⟩ count =
      template.renderAll left ⟨written ++ outputs.flatMap line, none⟩
        (count + outputs.length) := by
  induction finds generalizing outputs written count with
  | done =>
      cases renders
      simp
  | more found _ ih =>
      obtain ⟨output, outputs, rendered, others, rfl⟩ := List.forall₂_cons_left_iff.mp renders
      rw [renderAll_eq, found]
      simp only [rendered, Sink.write, if_true]
      rw [ih others, List.flatMap_cons, List.append_assoc, List.length_cons, Nat.add_assoc,
        Nat.add_comm 1]

end

end Template

namespace Command

section

variable [Json.Numbers] [Json.Decoder] {source text : String} {strict : Bool} {template : Template}

theorem execute_eq [Pattern.Engine]
    (compiled : Options.compile ⟨source, some text, strict, false⟩ = .ok template) :
    execute ⟨source, some text, strict, false⟩ =
      (renderDocuments template text).map Report.outputs := by
  unfold execute
  rw [compiled]
  cases run : renderDocuments template text <;> simp [bind, Except.bind, Except.map, run, pure,
    Except.pure]

theorem renderDocuments_eq_ok (documents : List (Document Number)) (fault : Option Json.Fault)
    (found : Json.documents text.toUTF8.toList = (documents, fault)) (outputs : List Value) :
    renderDocuments template text = .ok outputs ↔
      template.Renders documents outputs ∧ fault = none := by
  unfold renderDocuments
  rw [found, bind_eq_ok]
  simp only [mapM_eq_ok, mapError_eq_ok]
  constructor
  · rintro ⟨values, renders, ended⟩
    cases fault with
    | none =>
        cases ended
        exact ⟨renders, rfl⟩
    | some fault => cases ended
  · rintro ⟨renders, rfl⟩
    exact ⟨outputs, renders, rfl⟩

theorem renderDocuments_failed {before after : List (Document Number)} {document : Document Number}
    {fault : Option Json.Fault} {outputs : List Value} {error : EvalError}
    (found : Json.documents text.toUTF8.toList = (before ++ document :: after, fault))
    (renders : template.Renders before outputs)
    (failed : template.render document.toValue = .error error) :
    renderDocuments template text = .error (.eval error) := by
  have ran : List.Forall₂ (fun document value =>
      (template.render document.toValue).mapError CommandError.eval = .ok value) before outputs :=
    renders.imp fun _ _ rendered => mapError_eq_ok.mpr rendered
  unfold renderDocuments
  rw [found]
  dsimp only
  rw [mapM_error ran (by rw [failed]; rfl)]
  rfl

theorem renderDocuments_fault {documents : List (Document Number)} {fault : Json.Fault}
    {outputs : List Value} (found : Json.documents text.toUTF8.toList = (documents, some fault))
    (renders : template.Renders documents outputs) :
    renderDocuments template text = .error (.json fault) := by
  have ran := mapM_eq_ok.mpr (renders.imp fun document value rendered =>
    (mapError_eq_ok (f := CommandError.eval)).mpr rendered)
  unfold renderDocuments
  rw [found]
  dsimp only
  rw [ran]
  rfl

/-- Streaming documents and rendering all of their text agree, provided that the JSON library reads
texts, streams and sources as it should: in what is rendered, in the first document that does not
render, and in a text behind the documents that is none. Numbers and words need white space behind
them; other documents may touch the next one. -/
theorem stream_agrees [Pattern.Engine] (texts : ReadsTexts) (streams : ReadsStreams)
    (sources : ReadsSources) {documents : List (Document Number)} {behind : List Char}
    (compiled : Options.compile ⟨source, some text, strict, false⟩ = .ok template)
    (stream : StreamText behind text.toList documents) :
    (Blank behind → ∀ outputs,
      (execute ⟨source, some text, strict, false⟩ = .ok (.outputs outputs) ↔
        template.Renders documents outputs) ∧
      (execute ⟨source, some text, strict, false⟩ = .ok (.outputs outputs) →
        Command.stream template text.toUTF8.toList .unlimited =
          (.ok outputs.length, ⟨outputs.flatMap Template.line, none⟩))) ∧
    (∀ before document after outputs error, documents = before ++ document :: after →
      template.Renders before outputs → template.render document.toValue = .error error →
      execute ⟨source, some text, strict, false⟩ = .error (.eval error) ∧
        Command.stream template text.toUTF8.toList .unlimited =
          (.error (.eval error), ⟨outputs.flatMap Template.line, none⟩)) ∧
    (∀ outputs, template.Renders documents outputs → ¬Blank behind →
      (∀ front rest document, behind = front ++ rest →
        Json.decode (encode front) ≠ .ok document) →
      (∃ fault, execute ⟨source, some text, strict, false⟩ = .error (.json fault)) ∧
        ∃ fault, Command.stream template text.toUTF8.toList .unlimited =
          (.error (.render (.decode (.fault fault))), ⟨outputs.flatMap Template.line, none⟩)) := by
  have taken := streams.documents_stream stream
  unfold Command.stream Sink.unlimited
  rw [Json.toUTF8_toList]
  rw [← Json.toUTF8_toList] at taken
  refine ⟨?_, ?_, ?_⟩
  · intro blank outputs
    rw [streams.blank blank, List.append_nil] at taken
    have same : execute ⟨source, some text, strict, false⟩ = .ok (.outputs outputs) ↔
        template.Renders documents outputs := by
      rw [execute_eq compiled, map_eq_ok]
      simp only [renderDocuments_eq_ok documents none taken, and_true, Report.outputs.injEq,
        exists_eq_right]
    refine ⟨same, ?_⟩
    intro executed
    obtain ⟨gap, left, _, rfl, finds⟩ := sources.finds stream
    rw [template.renderAll_finds finds (same.mp executed), Template.renderAll_eq,
      (sources.blank blank.behind).1, Nat.zero_add]
    rfl
  · rintro before document after outputs error rfl renders failed
    rw [List.append_assoc, List.cons_append] at taken
    rw [execute_eq compiled, renderDocuments_failed taken renders failed]
    obtain ⟨_, _, _, _, finds⟩ := sources.finds stream
    obtain ⟨middle, front, found⟩ := finds.cut
    rw [template.renderAll_finds front renders, Template.renderAll_eq, found]
    simp only [failed]
    exact ⟨rfl, rfl⟩
  · intro outputs renders visible nothing
    have undecoded := texts.undecoded nothing
    obtain ⟨fault, fails⟩ := streams.fault visible undecoded
    rw [fails, List.append_nil] at taken
    refine ⟨⟨fault, by rw [execute_eq compiled, renderDocuments_fault taken renders]; rfl⟩, ?_⟩
    obtain ⟨gap, left, blankGap, rfl, finds⟩ := sources.finds stream
    have visibleLeft : ¬Blank left := fun blank => visible (blankGap.append blank)
    obtain ⟨other, found⟩ := sources.fault visibleLeft (undecoded.behindGap blankGap)
    refine ⟨other, ?_⟩
    rw [template.renderAll_finds finds renders, Template.renderAll_eq, found]
    rfl

end

theorem stream_agrees_mixed :
    let template : Template := ⟨.query ⟨"$", []⟩, .errorOnMissing⟩
    (∀ input, Options.compile ⟨"$", input, true, false⟩ = .ok template) ∧
    StreamText [] "[]true []".toList [.array [], .bool true, .array []] ∧
    Command.stream template "[]true []".toUTF8.toList .unlimited =
      (.ok 3, ⟨"[]\ntrue\n[]\n".toUTF8.toList, none⟩) ∧
    Command.stream template "[]null []".toUTF8.toList .unlimited =
      (.error (.eval (.missingKey "$" (.nullInput .extraction))), ⟨"[]\n".toUTF8.toList, none⟩) ∧
    (∃ fault, execute ⟨"$", some "true []?", true, false⟩ = .error (.json fault)) ∧
    ∃ fault, Command.stream template "true []?".toUTF8.toList .unlimited =
      (.error (.render (.decode (.fault fault))), ⟨"true\n[]\n".toUTF8.toList, none⟩) := by
  intro template
  have compiled : ∀ input, Options.compile ⟨"$", input, true, false⟩ = .ok template := by
    intro input
    cbv
  have array : Json.Decoded ['[', ']'] (.array []) :=
    ⟨.array [], .array (.empty Json.blank_nil), Nat.succ_pos _, rfl⟩
  have isTrue : Json.Decoded ['t', 'r', 'u', 'e'] (.bool true) :=
    ⟨.bool true, .isTrue, Nat.zero_le _, rfl⟩
  have isNull : Json.Decoded ['n', 'u', 'l', 'l'] .null :=
    ⟨.null, .null, Nat.zero_le _, rfl⟩
  have space : Blank [' '] := by simp [Blank, Json.isBlank]
  have apart : ∀ behind, Json.Apart ([' ', '[', ']'] ++ behind) := by
    simp [Json.Apart, Json.isBlank]
  have delimited : ∀ text, (Document.array ([] : List (Document Number))).isBare = true →
      Json.Apart text := by simp [Document.isBare]
  have last : StreamText [] [' ', '[', ']'] [.array []] := .more space array (delimited _) .done
  have renders : template.Renders [.array []] [.array []] := .cons rfl .nil
  have stream : StreamText [] "[]true []".toList [.array [], .bool true, .array []] :=
    .more Json.blank_nil array (delimited _)
      (.more Json.blank_nil isTrue (fun _ => apart []) last)
  refine ⟨compiled, stream, ?_, ?_, ?_⟩
  · obtain ⟨rendered, _, _⟩ := stream_agrees Json.reader_readsTexts Json.reader_readsStreams
      Json.reader_readsSources (compiled _) stream
    obtain ⟨executed, streamed⟩ := rendered Json.blank_nil [.array [], .bool true, .array []]
    have lines : [Value.array [], .bool true, .array []].flatMap Template.line =
        "[]\ntrue\n[]\n".toUTF8.toList := by decide +kernel
    rw [← lines]
    exact streamed (executed.mpr (.cons rfl (.cons rfl renders)))
  · have stream : StreamText [] "[]null []".toList [.array [], .null, .array []] :=
      .more Json.blank_nil array (delimited _)
        (.more Json.blank_nil isNull (fun _ => apart []) last)
    obtain ⟨_, failed, _⟩ := stream_agrees Json.reader_readsTexts Json.reader_readsStreams
      Json.reader_readsSources (compiled _) stream
    have lines : [Value.array []].flatMap Template.line = "[]\n".toUTF8.toList := by decide +kernel
    rw [← lines]
    exact (failed [.array []] .null [.array []] _ _ rfl renders rfl).2
  · have stream : StreamText ['?'] "true []?".toList [.bool true, .array []] :=
      .more Json.blank_nil isTrue (fun _ => apart ['?'])
        (.more space array (delimited _) .done)
    obtain ⟨_, _, fault⟩ := stream_agrees Json.reader_readsTexts Json.reader_readsStreams
      Json.reader_readsSources (compiled _) stream
    have lines : [Value.bool true, .array []].flatMap Template.line =
        "true\n[]\n".toUTF8.toList := by decide +kernel
    rw [← lines]
    refine fault [.bool true, .array []] (.cons rfl renders) (by simp [Blank, Json.isBlank]) ?_
    intro front rest document cut decoded
    rcases List.append_eq_singleton_iff.mp cut.symm with ⟨rfl, _⟩ | ⟨rfl, _⟩
    · cases decoded
    · cases decoded

end Command

end Stencil
