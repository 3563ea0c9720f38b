import Stencil.Json.Decoder
import Stencil.Proofs.Json.Numbers

/-! What is expected of the library that reads JSON. It decodes the texts of the grammar, merged and
up to some depth, one by one or several in a row. Of a source of bytes it takes no more than it has
to look at. -/

namespace Stencil.Json

open Numbers (Number)

/-- Numbers and words do not show where they end. -/
def Document.isBare {ν : Type} : Document ν → Bool
  | null => true
  | bool _ => true
  | number _ => true
  | _ => false

theorem isBare_merged {ν : Type} (document : Document ν) :
    document.merged.isBare = document.isBare := by
  cases document <;> rfl

theorem isDigit_visible {c : Char} (digit : c.isDigit = true) : isBlank c = false := by
  cases blank : isBlank c with
  | false => rfl
  | true =>
      simp only [isBlank, Bool.or_eq_true, beq_iff_eq] at blank
      rcases blank with ((rfl | rfl) | rfl) | rfl <;> cases digit

theorem Written.opens {ν : Type} {number? : List Char → Option ν} {used : List Char}
    {document : Document ν} (written : Written number? used document) :
    ∃ c rest, used = c :: rest ∧ isAscii c = true ∧ isBlank c = false ∧ c ≠ ']' ∧ c ≠ '}' := by
  cases written with
  | number isNumber _ =>
      obtain ⟨c, rest, rfl, digit | ⟨rfl, _⟩⟩ := isNumber.starts
      · refine ⟨c, rest, rfl, isDigit_ascii c digit, isDigit_visible digit, ?_, ?_⟩
        · rintro rfl
          cases digit
        · rintro rfl
          cases digit
      · exact ⟨'-', rest, rfl, rfl, rfl, by decide, by decide⟩
  | _ => exact ⟨_, _, rfl, rfl, rfl, by decide, by decide⟩

/-- Nothing comes next, or white space does. -/
def Apart (text : List Char) : Prop :=
  ∀ c ∈ text.head?, isBlank c = true

/-- What is left of the text behind a document. To see the end of a number or a word one character
more is read, and lost. -/
def Document.leftOf {ν : Type} (document : Document ν) (text : List Char) : List Char :=
  if document.isBare then text.drop 1 else text

theorem Document.leftOf_cut {ν : Type} {document : Document ν} {text : List Char}
    (apart : document.isBare = true → Apart text) :
    ∃ gap, Blank gap ∧ text = gap ++ document.leftOf text := by
  unfold leftOf
  split
  next bare =>
    cases text with
    | nil => exact ⟨[], blank_nil, rfl⟩
    | cons c rest => exact ⟨[c], by simpa [Blank] using apart bare c rfl, rfl⟩
  next => exact ⟨[], blank_nil, rfl⟩

variable [Numbers]

/-- What a decoder makes of a text without white space around it: its document, merged. -/
def Decoded (used : List Char) (document : Document Number) : Prop :=
  ∃ written, Written Numbers.ofText? used written ∧ written.depth ≤ maxDepth ∧
    written.merged = document

/-- No document stands in front. -/
def Undecoded (text : List Char) : Prop :=
  ∀ lead used behind document, text = lead ++ (used ++ behind) → Blank lead →
    ¬Decoded used document

theorem Undecoded.behindGap {gap text : List Char} (undecoded : Undecoded (gap ++ text))
    (blank : Blank gap) : Undecoded text := by
  rintro lead used behind document rfl blankLead
  exact undecoded (gap ++ lead) used behind document (List.append_assoc ..).symm
    (blank.append blankLead)

/-- Documents in front of some text. White space may stand before each of them; behind a number or
a word it has to, unless the text ends there. -/
inductive StreamText (behind : List Char) : List Char → List (Document Number) → Prop
  | done : StreamText behind behind []
  | more {lead used text document documents} : Blank lead → Decoded used document →
      (document.isBare = true → Apart text) → StreamText behind text documents →
      StreamText behind (lead ++ (used ++ text)) (document :: documents)

/-- White space in front may be missing, and then perhaps behind the documents if there are none. -/
theorem StreamText.behindGap {behind gap text : List Char} {documents : List (Document Number)}
    (stream : StreamText behind (gap ++ text) documents) (blank : Blank gap) :
    ∃ skipped left, Blank skipped ∧ behind = skipped ++ left ∧ StreamText left text documents := by
  generalize whole : gap ++ text = all at stream
  cases stream with
  | done => exact ⟨gap, text, blank, whole.symm, .done⟩
  | @more lead used rest document documents blankLead decoded apart later =>
      obtain ⟨lead, rfl, rfl⟩ : ∃ others, lead = gap ++ others ∧
          text = others ++ (used ++ rest) := by
        rcases List.append_eq_append_iff.mp whole with ⟨others, rfl, same⟩ | ⟨others, rfl, same⟩
        · exact ⟨others, rfl, same⟩
        · obtain ⟨written, found, _⟩ := decoded
          obtain ⟨c, more, rfl, _, visible, _⟩ := found.opens
          cases others with
          | nil => exact ⟨[], by simp, by simpa using same.symm⟩
          | cons d others =>
              obtain ⟨rfl, _⟩ := List.cons.inj same
              rw [blank c (by simp)] at visible
              cases visible
      exact ⟨[], behind, blank_nil, rfl, .more blankLead.behind decoded apart later⟩

variable [Decoder]

/-- The texts of one document are those of the grammar, up to some depth. -/
structure ReadsTexts : Prop where
  decoded (text : List Char) (document : Document Number) :
    decode (encode text) = .ok document ↔ ∃ written, DocumentText Numbers.ofText? text written ∧
      written.depth ≤ maxDepth ∧ written.merged = document

/-- One reader takes the documents of a text in a row. -/
structure ReadsStreams : Prop where
  blank {text} : Blank text → documents (encode text) = ([], none)
  document {lead used text document} : Blank lead → Decoded used document →
    (document.isBare = true → Apart text) → documents (encode (lead ++ (used ++ text))) =
      (document :: (documents (encode text)).1, (documents (encode text)).2)
  fault {text} : ¬Blank text → Undecoded text →
    ∃ fault, documents (encode text) = ([], some fault)

/-- A fresh reader takes the next document of a source. -/
structure ReadsSources : Prop where
  blank {text} : Blank text → (next (encode text)).found = none ∧ (next (encode text)).rest = []
  document {lead used text document} : Blank lead → Decoded used document →
    (document.isBare = true → Apart text) →
      (next (encode (lead ++ (used ++ text)))).found = some (.ok document) ∧
      (next (encode (lead ++ (used ++ text)))).rest = encode (document.leftOf text)
  fault {text} : ¬Blank text → Undecoded text →
    ∃ fault, (next (encode text)).found = some (.error fault)

theorem ReadsTexts.undecoded (texts : ReadsTexts) {text : List Char}
    (nothing : ∀ front rest document, text = front ++ rest →
      decode (encode front) ≠ .ok document) : Undecoded text := by
  rintro lead used behind _ same blank ⟨written, found, shallow, rfl⟩
  refine nothing (lead ++ (used ++ [])) behind _ (by simpa using same)
    ((texts.decoded _ _).mpr ⟨written, ?_, shallow, rfl⟩)
  exact .one blank found blank_nil

theorem ReadsStreams.documents_stream (streams : ReadsStreams) {behind text : List Char}
    {front : List (Document Number)} (stream : StreamText behind text front) :
    documents (encode text) =
      (front ++ (documents (encode behind)).1, (documents (encode behind)).2) := by
  induction stream with
  | done => rfl
  | more blank decoded apart _ ih => rw [streams.document blank decoded apart, ih, List.cons_append]

/-- What fresh readers find in a source one after the other, and what they leave of it. -/
inductive Finds : List UInt8 → List (Document Number) → List UInt8 → Prop
  | done {bytes} : Finds bytes [] bytes
  | more {bytes document documents left} : (next bytes).found = some (.ok document) →
      Finds (next bytes).rest documents left → Finds bytes (document :: documents) left

theorem Finds.cut {bytes left : List UInt8} {before after : List (Document Number)}
    {document : Document Number} (finds : Finds bytes (before ++ document :: after) left) :
    ∃ middle, Finds bytes before middle ∧ (next middle).found = some (.ok document) := by
  induction before generalizing bytes with
  | nil =>
      cases finds with
      | more found _ => exact ⟨bytes, .done, found⟩
  | cons first before ih =>
      cases finds with
      | more found later =>
          obtain ⟨middle, front, back⟩ := ih later
          exact ⟨middle, .more found front, back⟩

theorem ReadsSources.finds (sources : ReadsSources) {behind text : List Char}
    {documents : List (Document Number)} (stream : StreamText behind text documents) :
    ∃ gap left, Blank gap ∧ behind = gap ++ left ∧
      Finds (encode text) documents (encode left) := by
  induction documents generalizing behind text with
  | nil =>
      cases stream
      exact ⟨[], _, blank_nil, rfl, .done⟩
  | cons document documents ih =>
      cases stream with
      | @more lead used rest _ _ blank decoded apart later =>
          obtain ⟨lost, blankLost, cut⟩ := Document.leftOf_cut apart
          rw [cut] at later
          obtain ⟨skipped, behind, blankSkipped, rfl, seen⟩ := later.behindGap blankLost
          obtain ⟨gap, left, blankGap, rfl, finds⟩ := ih seen
          obtain ⟨found, unread⟩ := sources.document blank decoded apart
          refine ⟨skipped ++ gap, left, blankSkipped.append blankGap,
            (List.append_assoc ..).symm, ?_⟩
          rw [← unread] at finds
          exact .more found finds

end Stencil.Json
