import Stencil.Proofs.Json.Reading

/-! Streams of documents. Where it has to look behind a number or a word, the reader holds a byte of
white space at most. -/

namespace Stencil.Json

open Numbers (Number)

theorem Apart.stops {text : List Char} (apart : Apart text) : Stops text := by
  intro c head
  simp [endsWord, apart c head]

theorem Apart.mayFollow {text : List Char} (apart : Apart text) :
    ((encode text).take 1).all Json.mayFollow = true := by
  cases text with
  | nil => rfl
  | cons c rest =>
      have blank := apart c rfl
      rw [encode_cons_ascii rest (isBlank_ascii c blank)]
      have space : Json.isSpace (UInt8.ofNat c.toNat) = true := by
        simpa only [Json.isSpace, isBlank, charOf_ofNat (isBlank_ascii c blank)] using blank
      simp [Json.mayFollow, space]

def opensDelimited (c : Char) : Bool :=
  c == '[' || c == '\x7b' || c == '"'

theorem NumberText.opens {c : Char} {rest : List Char} (isNumber : NumberText (c :: rest)) :
    opensDelimited c = false := by
  obtain ⟨_, _, same, digit | ⟨rfl, _⟩⟩ := isNumber.starts
  · cases same
    have other : ∀ d : Char, d.isDigit = false → (c == d) = false := by
      intro d noDigit
      rw [beq_eq_false_iff_ne]
      rintro rfl
      rw [digit] at noDigit
      cases noDigit
    rw [opensDelimited, other '[' rfl, other '\x7b' rfl, other '"' rfl]
    rfl
  · cases same
    rfl

theorem Written.isBare {ν : Type} {number? : List Char → Option ν} {c : Char} {rest : List Char}
    {document : Document ν} (written : Written number? (c :: rest) document) :
    document.isBare = !opensDelimited c := by
  generalize usedEq : c :: rest = used at written
  cases written with
  | number isNumber _ =>
      subst usedEq
      rw [isNumber.opens]
      rfl
  | _ =>
      cases usedEq
      rfl

variable [Numbers]

/-- What looking for the next document leads to: a fault, or a document, the bytes behind it and
whether the first of them is held. -/
def outcome (bytes : List UInt8) : Option (Except Fault (Document Number × List UInt8 × Bool)) :=
  (Reader.take? bytes).map fun outcome =>
    (outcome.mapError Halt.fault).map fun taken => (taken.document, taken.rest, taken.held)

theorem value_behind (levels : Nat) {bytes : List UInt8} {first : UInt8} {rest : List UInt8}
    (skipped : skipSpace bytes = first :: rest) :
    (value levels bytes).map (fun read => (read.result, read.rest)) =
      (valueAt (nestedReader levels) first rest).map fun read => (read.result, read.rest) := by
  rw [value.eq_def]
  dsimp only
  split
  next nothing =>
    rw [nothing] at skipped
    cases skipped
  next b more cut =>
    rw [cut] at skipped
    cases skipped
    cases levels with
    | zero => cases run : valueAt none first rest <;> simp [nestedReader, run, Except.map]
    | succ deeper =>
        cases run : valueAt (some (value deeper)) first rest <;>
          simp [nestedReader, run, Except.map]

theorem outcome_eq (bytes : List UInt8) :
    outcome bytes = match skipSpace bytes with
      | [] => none
      | first :: rest => some <| match valueAt (nestedReader maxDepth) first rest with
        | .error halt => .error halt.fault
        | .ok read =>
          if showsEnd first then .ok (read.result.merged, read.rest, false)
          else if (read.rest.take 1).all mayFollow then .ok (read.result.merged, read.rest, true)
          else .error (stopAt read.rest).fault := by
  unfold outcome Reader.take?
  cases skipped : skipSpace bytes with
  | nil => rfl
  | cons first rest =>
      have same := value_behind maxDepth skipped
      dsimp only [Option.map]
      cases run : value maxDepth bytes with
      | error halt =>
          cases inner : valueAt (nestedReader maxDepth) first rest with
          | error other =>
              rw [run, inner] at same
              cases same
              rfl
          | ok read =>
              rw [run, inner] at same
              cases same
      | ok read =>
          cases inner : valueAt (nestedReader maxDepth) first rest with
          | error other =>
              rw [run, inner] at same
              cases same
          | ok other =>
              rw [run, inner] at same
              obtain ⟨result, left⟩ := Prod.mk.inj (Except.ok.inj same)
              dsimp only [bind, Except.bind] at result left ⊢
              rw [← result, ← left]
              split
              · rfl
              · split <;> rfl

theorem documents_eq (bytes : List UInt8) :
    Reader.documents bytes = match outcome bytes with
      | none => ([], none)
      | some (.error fault) => ([], some fault)
      | some (.ok (document, rest, _)) =>
        (document :: (Reader.documents rest).1, (Reader.documents rest).2) := by
  rw [Reader.documents, outcome]
  cases Reader.take? bytes with
  | none => rfl
  | some outcome => cases outcome <;> rfl

theorem next_found (bytes : List UInt8) :
    (Reader.next bytes).found = (outcome bytes).map fun outcome => outcome.map Prod.fst := by
  rw [Reader.next, outcome]
  cases Reader.take? bytes with
  | none => rfl
  | some outcome => cases outcome <;> rfl

theorem next_rest {bytes rest : List UInt8} {document : Document Number} {held : Bool}
    (found : outcome bytes = some (.ok (document, rest, held))) :
    (Reader.next bytes).rest = unread rest held := by
  unfold outcome at found
  obtain ⟨outcome, comes, ended⟩ := Option.map_eq_some_iff.mp found
  cases outcome with
  | error halt => cases ended
  | ok taken =>
      cases ended
      rw [Reader.next, comes]

theorem unread_encode {document : Document Number} {text : List Char}
    (apart : document.isBare = true → Apart text) :
    unread (encode text) document.isBare = encode (document.leftOf text) := by
  unfold unread Document.leftOf
  split
  next bare =>
    cases text with
    | nil => rfl
    | cons c rest =>
        have ascii := isBlank_ascii c (apart bare c rfl)
        rw [encode_cons_ascii rest ascii]
        rfl
  next => rfl

theorem outcome_document {lead used text : List Char} {document : Document Number}
    (blank : Blank lead) (decoded : Decoded used document)
    (apart : document.isBare = true → Apart text) :
    outcome (encode (lead ++ (used ++ text))) =
      some (.ok (document, encode text, document.isBare)) := by
  obtain ⟨written, found, shallow, rfl⟩ := decoded
  obtain ⟨c, rest, rfl, ascii, visible, _⟩ := found.opens
  have bare := found.isBare
  rw [isBare_merged, bare] at apart ⊢
  have stops : NumberText (c :: rest) → Stops text := by
    intro isNumber
    exact (apart (by rw [isNumber.opens]; rfl)).stops
  obtain ⟨b, more, read, spelled, run, result, left⟩ :=
    valueAt_complete (fun deeper _ => value_spells deeper) ⟨found, shallow⟩ stops
  rw [List.cons_append, encode_cons_ascii _ ascii, List.cons.injEq] at spelled
  obtain ⟨rfl, rfl⟩ := spelled
  rw [outcome_eq, List.cons_append, skipSpace_visible _ blank ascii visible]
  dsimp only
  rw [run]
  dsimp only
  rw [result, left, showsEnd, charOf_ofNat ascii, ← opensDelimited]
  cases shows : opensDelimited c with
  | true => rfl
  | false =>
      rw [shows] at apart
      simp [(apart rfl).mayFollow]

theorem outcome_blank {text : List Char} (blank : Blank text) :
    outcome (encode text) = none := by
  rw [outcome_eq, (skipSpace_eq_nil text).mpr blank]

theorem outcome_fault {text : List Char} (visible : ¬Blank text) (undecoded : Undecoded text) :
    ∃ fault, outcome (encode text) = some (.error fault) := by
  rw [outcome_eq]
  cases skipped : skipSpace (encode text) with
  | nil => exact absurd ((skipSpace_eq_nil text).mp skipped) visible
  | cons first rest =>
      dsimp only
      cases run : valueAt (nestedReader maxDepth) first rest with
      | error halt => exact ⟨_, rfl⟩
      | ok read =>
          have reads := (value_reads maxDepth (encode text) read.result read.rest).mpr
            ⟨first, rest, read, skipped, run, rfl, rfl⟩
          obtain ⟨lead, used, behind, same, blank, _, found, shallow⟩ :=
            (value_spells maxDepth).sound _ _ _ reads
          exact absurd ⟨read.result, found, shallow, rfl⟩ (undecoded lead used behind _ same blank)

theorem documents_blank {text : List Char} (blank : Blank text) :
    Reader.documents (encode text) = ([], none) := by
  rw [documents_eq, outcome_blank blank]

theorem documents_document {lead used text : List Char} {document : Document Number}
    (blank : Blank lead) (decoded : Decoded used document)
    (apart : document.isBare = true → Apart text) :
    Reader.documents (encode (lead ++ (used ++ text))) =
      (document :: (Reader.documents (encode text)).1, (Reader.documents (encode text)).2) := by
  rw [documents_eq, outcome_document blank decoded apart]

theorem documents_fault {text : List Char} (visible : ¬Blank text) (undecoded : Undecoded text) :
    ∃ fault, Reader.documents (encode text) = ([], some fault) := by
  obtain ⟨fault, fails⟩ := outcome_fault visible undecoded
  exact ⟨fault, by rw [documents_eq, fails]⟩

theorem reader_readsStreams : @ReadsStreams _ reader :=
  @ReadsStreams.mk _ reader documents_blank documents_document documents_fault

theorem next_blank {text : List Char} (blank : Blank text) :
    (Reader.next (encode text)).found = none ∧ (Reader.next (encode text)).rest = [] := by
  have nothing := outcome_blank blank
  refine ⟨by rw [next_found, nothing]; rfl, ?_⟩
  unfold outcome at nothing
  rw [Reader.next, Option.map_eq_none_iff.mp nothing]

theorem next_document {lead used text : List Char} {document : Document Number}
    (blank : Blank lead) (decoded : Decoded used document)
    (apart : document.isBare = true → Apart text) :
    (Reader.next (encode (lead ++ (used ++ text)))).found = some (.ok document) ∧
      (Reader.next (encode (lead ++ (used ++ text)))).rest = encode (document.leftOf text) := by
  have found := outcome_document blank decoded apart
  rw [next_found, next_rest found, found, unread_encode apart]
  exact ⟨rfl, rfl⟩

theorem next_fault {text : List Char} (visible : ¬Blank text) (undecoded : Undecoded text) :
    ∃ fault, (Reader.next (encode text)).found = some (.error fault) := by
  obtain ⟨fault, fails⟩ := outcome_fault visible undecoded
  exact ⟨fault, by rw [next_found, fails]; rfl⟩

theorem reader_readsSources : @ReadsSources _ reader :=
  @ReadsSources.mk _ reader next_blank next_document next_fault

end Stencil.Json
