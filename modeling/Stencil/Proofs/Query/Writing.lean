import Stencil.Proofs.Json.Decimals
import Stencil.Proofs.Query.Segments

/-! A text for every query: selectors in brackets, names in quotes. -/

namespace Stencil.Query

open Number (digitsValue)

def integerText (n : Int) : List Char :=
  if n < 0 then '-' :: Nat.toDigits 10 n.natAbs else Nat.toDigits 10 n.natAbs

theorem digitsValue_toDigits (n : Nat) : digitsValue (Nat.toDigits 10 n) = n := by
  rw [Json.digitsValue_eq, Nat.ofDigitChars_ten_toDigits]

theorem integerText_spells {n : Int} (inside : fits n = true) : IntegerText (integerText n) n := by
  have digits := Json.toDigits_digits n.natAbs
  have value := digitsValue_toDigits n.natAbs
  unfold integerText
  split
  next negative =>
    have same : n = -(digitsValue (Nat.toDigits 10 n.natAbs) : Int) := by omega
    rw [same] at inside
    have spelled := IntegerText.negative digits inside
    rwa [← same] at spelled
  next positive =>
    have same : n = (digitsValue (Nat.toDigits 10 n.natAbs) : Int) := by omega
    rw [same] at inside
    have spelled := IntegerText.plain digits inside
    rwa [← same] at spelled

/-- The characters of a name with a backslash in front of single quotes and backslashes. -/
def escaped (name : List Char) : List Char :=
  name.flatMap fun c => if c = '\x27' ∨ c = '\\' then ['\\', c] else [c]

theorem escaped_spells (name : List Char) :
    QuotedText '\x27' (escaped name ++ ['\x27']) name := by
  induction name with
  | nil => exact .close
  | cons c rest ih =>
      rw [escaped, List.flatMap_cons]
      split
      next => exact .literal ih
      next plain =>
        rw [not_or] at plain
        exact .plain plain.1 plain.2 ih

def boundText : Option Int → List Char
  | none => []
  | some n => integerText n

theorem boundText_spells {bound : Option Int} (inside : ∀ n ∈ bound, fits n = true) :
    BoundText (boundText bound) bound := by
  cases bound with
  | none => exact .missing spaces_nil
  | some n =>
      have given := BoundText.given spaces_nil (integerText_spells (inside n rfl)) spaces_nil
      rwa [List.nil_append, List.append_nil] at given

def selectorText : Selector → List Char
  | .name name => '\x27' :: (escaped name.toList ++ ['\x27'])
  | .wildcard => ['*']
  | .index n => integerText n
  | .slice start stop step =>
    boundText start ++ ':' :: (boundText stop ++ ':' :: boundText (some step.val))

def Fits : Selector → Prop
  | .name _ => True
  | .wildcard => True
  | .index n => fits n = true
  | .slice start stop step =>
    (∀ n ∈ start, fits n = true) ∧ (∀ n ∈ stop, fits n = true) ∧ fits step.val = true

theorem selectorText_spells {selector : Selector} (inside : Fits selector) :
    SelectorText (selectorText selector) selector := by
  cases selector with
  | name name =>
      have spelled := SelectorText.name (Or.inl rfl) (escaped_spells name.toList)
      rwa [String.ofList_toList] at spelled
  | wildcard => exact .wildcard
  | index n => exact .index (integerText_spells inside)
  | slice start stop step =>
      obtain ⟨startFits, stopFits, stepFits⟩ := inside
      have given : BoundText (boundText (some step.val)) (some (step.val : Int)) := by
        apply boundText_spells
        intro n same
        cases same
        exact stepFits
      exact .slice (boundText_spells startFits) (boundText_spells stopFits) (.given given)

def bracketText : List Selector → List Char
  | [] => [']']
  | [selector] => selectorText selector ++ [']']
  | selector :: second :: rest => selectorText selector ++ ',' :: bracketText (second :: rest)

theorem bracketText_spells {selectors : List Selector} (some : selectors ≠ [])
    (inside : ∀ selector ∈ selectors, Fits selector) :
    BracketText (bracketText selectors) selectors := by
  induction selectors with
  | nil => exact absurd rfl some
  | cons selector rest ih =>
      have spelled := selectorText_spells (inside selector List.mem_cons_self)
      cases rest with
      | nil => exact .last spaces_nil spelled spaces_nil
      | cons second rest =>
          have later := ih (List.cons_ne_nil second rest)
            fun other member => inside other (List.mem_cons_of_mem selector member)
          exact .more spaces_nil spelled spaces_nil later

def selectorsOf : Segment → List Selector
  | .child selectors => selectors
  | .descendant selectors => selectors

def Writable (segment : Segment) : Prop :=
  selectorsOf segment ≠ [] ∧ ∀ selector ∈ selectorsOf segment, Fits selector

def segmentText : Segment → List Char
  | .child selectors => '[' :: bracketText selectors
  | .descendant selectors => '.' :: '.' :: '[' :: bracketText selectors

theorem segmentText_spells {segment : Segment} (writable : Writable segment) :
    SegmentText (segmentText segment) segment := by
  obtain ⟨some, inside⟩ := writable
  cases segment with
  | child selectors => exact .bracket (bracketText_spells some inside)
  | descendant selectors => exact .deepBracket (bracketText_spells some inside)

theorem segmentsText_spells {segments : List Segment}
    (writable : ∀ segment ∈ segments, Writable segment) :
    SegmentsText (segments.flatMap segmentText) segments := by
  induction segments with
  | nil => exact .nil
  | cons segment rest ih =>
      rw [List.flatMap_cons]
      exact .cons (segmentText_spells (writable segment List.mem_cons_self))
        (ih fun other member => writable other (List.mem_cons_of_mem segment member))

theorem IntegerText.fits {text : List Char} {n : Int} (spelled : IntegerText text n) :
    Query.fits n = true := by
  cases spelled with
  | plain _ inside => exact inside
  | negative _ inside => exact inside

theorem BoundText.fits {text : List Char} {bound : Option Int} (spelled : BoundText text bound) :
    ∀ n ∈ bound, Query.fits n = true := by
  intro n given
  cases spelled with
  | missing _ => cases given
  | given _ integer _ =>
      cases given
      exact integer.fits

theorem StepText.fits {text : List Char} {step : { step : Nat // 0 < step }}
    (spelled : StepText text step) : Query.fits step.val = true := by
  cases spelled with
  | missing => rfl
  | omitted _ => rfl
  | given bound => exact bound.fits _ rfl

theorem SelectorText.fits {text : List Char} {selector : Selector}
    (spelled : SelectorText text selector) : Fits selector := by
  cases spelled with
  | wildcard => trivial
  | name _ _ => trivial
  | index integer => exact integer.fits
  | slice start stop step => exact ⟨start.fits, stop.fits, step.fits⟩

theorem BracketText.fits {text : List Char} {selectors : List Selector}
    (spelled : BracketText text selectors) :
    selectors ≠ [] ∧ ∀ selector ∈ selectors, Fits selector := by
  induction spelled with
  | last _ first _ => exact ⟨List.cons_ne_nil _ _, List.forall_mem_singleton.mpr first.fits⟩
  | more _ first _ _ ih =>
      exact ⟨List.cons_ne_nil _ _, List.forall_mem_cons.mpr ⟨first.fits, ih.2⟩⟩

theorem DottedText.fits {text : List Char} {selector : Selector}
    (spelled : DottedText text selector) : Fits selector := by
  cases spelled <;> trivial

theorem SegmentText.writable {text : List Char} {segment : Segment}
    (spelled : SegmentText text segment) : Writable segment := by
  cases spelled with
  | dotted one => exact ⟨List.cons_ne_nil _ _, List.forall_mem_singleton.mpr one.fits⟩
  | deepDotted one => exact ⟨List.cons_ne_nil _ _, List.forall_mem_singleton.mpr one.fits⟩
  | bracket selectors => exact selectors.fits
  | deepBracket selectors => exact selectors.fits

theorem SegmentsText.writable {text : List Char} {segments : List Segment}
    (spelled : SegmentsText text segments) : ∀ segment ∈ segments, Writable segment := by
  induction spelled with
  | nil => exact List.forall_mem_nil _
  | cons first _ ih => exact List.forall_mem_cons.mpr ⟨first.writable, ih⟩

theorem fits_iff_compiled (selector : Selector) :
    Fits selector ↔ ∃ text query segment, compile text = .ok query ∧ segment ∈ query.segments ∧
      selector ∈ selectorsOf segment := by
  constructor
  · intro inside
    have writable : Writable (.child [selector]) :=
      ⟨List.cons_ne_nil _ _, List.forall_mem_singleton.mpr inside⟩
    have spelled := segmentsText_spells (List.forall_mem_singleton.mpr writable)
    let text := String.ofList ('$' :: [Segment.child [selector]].flatMap segmentText)
    have compiled : compile text = .ok ⟨text, [.child [selector]]⟩ :=
      (compile_eq_ok_iff _ _).mpr ⟨rfl, _, String.toList_ofList, spelled⟩
    exact ⟨text, _, _, compiled, List.mem_singleton_self _, List.mem_singleton_self _⟩
  · rintro ⟨text, query, segment, compiled, member, part⟩
    obtain ⟨_, rest, _, spelled⟩ := (compile_eq_ok_iff _ _).mp compiled
    exact (spelled.writable segment member).2 selector part

/-- Queries are exactly the texts of the grammar, and mean what the grammar says. Every list of
segments that have selectors and whose integers can be written is the meaning of some text. -/
theorem compile_exact :
    (∀ text query, compile text = .ok query ↔
      query.text = text ∧ QueryText text.toList query.segments) ∧
    ∀ segments, (∀ segment ∈ segments, Writable segment) →
      ∃ text, compile text = .ok ⟨text, segments⟩ := by
  refine ⟨compile_eq_ok_iff, ?_⟩
  intro segments writable
  refine ⟨String.ofList ('$' :: segments.flatMap segmentText), ?_⟩
  rw [compile_eq_ok_iff, String.toList_ofList]
  exact ⟨rfl, _, rfl, segmentsText_spells writable⟩

end Stencil.Query
