import Stencil.Proofs.Members
import Stencil.Proofs.Parsing
import Stencil.Proofs.Query.Extent
import Stencil.Proofs.Query.Writing
import Stencil.Template.Basic

/-! Places in a value. Every place has a query with one selector for each step that leads to it, and
as a template that query renders what is there. -/

namespace Stencil

namespace Value

inductive Step where
  | member (name : String)
  | item (index : Nat)

def part? : Value → Step → Option Value
  | .object members, .member name => Members.get? name members
  | .array items, .item index => items[index]?
  | _, _ => none

def at? (root : Value) (place : List Step) : Option Value :=
  place.foldlM part? root

theorem at?_cons {root target : Value} {step : Step} {place : List Step} :
    root.at? (step :: place) = some target ↔
      ∃ part, root.part? step = some part ∧ part.at? place = some target := by
  simp [at?, List.foldlM_cons, Option.bind_eq_some_iff]

/-- Every array has fewer items than a signed word can count, as it has wherever it fits into
memory. -/
inductive Countable : Value → Prop
  | null : Countable .null
  | bool b : Countable (.bool b)
  | number x : Countable (.number x)
  | string s : Countable (.string s)
  | array {items} : items.length < 0x8000000000000000 → (∀ item ∈ items, Countable item) →
      Countable (.array items)
  | object {members} : (∀ member ∈ members, Countable member.2) → Countable (.object members)

theorem Countable.part {root part : Value} {step : Step} (countable : root.Countable)
    (found : root.part? step = some part) : part.Countable := by
  cases countable with
  | null => cases found
  | bool b => cases found
  | number x => cases found
  | string s => cases found
  | array _ each =>
      cases step with
      | member name => cases found
      | item index => exact each part (List.mem_of_getElem? found)
  | object each =>
      cases step with
      | member name => exact each _ (Members.mem_of_get? found)
      | item index => cases found

end Value

namespace Query

open Value (Step)

/-- The selectors for one step. An index may also count from the end of its array. -/
inductive Takes : Selector → Value → Value.Step → Prop
  | name {members name} : Takes (.name name) (.object members) (.member name)
  | fromStart {items index} : Takes (.index (index : Nat)) (.array items) (.item index)
  | fromEnd {items index} :
      Takes (.index ((index : Nat) - (items.length : Nat))) (.array items) (.item index)

inductive Addresses : List Selector → Value → List Value.Step → Prop
  | here {root} : Addresses [] root []
  | step {selector selectors root step part place} : Takes selector root step →
      root.part? step = some part → Addresses selectors part place →
      Addresses (selector :: selectors) root (step :: place)

/-- A query with each selector in brackets of its own. -/
def addressText (selectors : List Selector) : List Char :=
  '$' :: selectors.flatMap fun selector => segmentText (.child [selector])

example : addressText [.name "it's", .index 2, .index (-1)] = "$['it\\'s'][2][-1]".toList := by
  decide

theorem addresses_exists {root target : Value} {place : List Value.Step}
    (found : root.at? place = some target) : ∃ selectors, Addresses selectors root place := by
  induction place generalizing root with
  | nil => exact ⟨[], .here⟩
  | cons step place ih =>
      obtain ⟨part, isPart, inside⟩ := Value.at?_cons.mp found
      obtain ⟨selectors, addressed⟩ := ih inside
      obtain ⟨selector, takes⟩ : ∃ selector, Takes selector root step := by
        cases root <;> cases step <;> try cases isPart
        · exact ⟨_, .fromStart⟩
        · exact ⟨_, .name⟩
      exact ⟨selector :: selectors, .step takes isPart addressed⟩

theorem position?_fromStart {index length : Nat} (inside : index < length) :
    position? index length = some index := by
  simp [position?, inside]

theorem position?_fromEnd {index length : Nat} (inside : index < length) :
    position? ((index : Int) - (length : Int)) length = some index := by
  have negative : ¬(0 : Int) ≤ (index : Int) - length := by omega
  have same : (length : Int) + ((index : Int) - length) = index := by omega
  simp only [position?, if_neg negative, same]
  simp [inside]

theorem Takes.parts {selector : Selector} {root part : Value} {step : Value.Step}
    (takes : Takes selector root step) (found : root.part? step = some part) :
    selector.parts root = [part] := by
  cases takes with
  | name =>
      change Members.get? _ _ = some part at found
      simp [Selector.parts, found]
  | fromStart =>
      change _[_]? = some part at found
      obtain ⟨inside, _⟩ := List.getElem?_eq_some_iff.mp found
      simp [Selector.parts, position?_fromStart inside, found]
  | fromEnd =>
      change _[_]? = some part at found
      obtain ⟨inside, _⟩ := List.getElem?_eq_some_iff.mp found
      simp [Selector.parts, position?_fromEnd inside, found]

theorem Takes.applies {selector : Selector} {root part : Value} {step : Value.Step}
    (takes : Takes selector root step) (found : root.part? step = some part) (tolerant : Bool) :
    selector.fault? tolerant root = none := by
  cases takes with
  | name => rfl
  | fromStart =>
      obtain ⟨inside, _⟩ := List.getElem?_eq_some_iff.mp found
      simp [Selector.fault?, position?_fromStart inside]
  | fromEnd =>
      obtain ⟨inside, _⟩ := List.getElem?_eq_some_iff.mp found
      simp [Selector.fault?, position?_fromEnd inside]

theorem Takes.resolves {selector : Selector} {root part : Value} {step : Value.Step}
    (takes : Takes selector root step) (found : root.part? step = some part) (tolerant : Bool) :
    (Segment.child [selector]).resolve tolerant [root] = .ok [part] := by
  simp [Segment.resolve, firstFault?, selected, takes.parts found, takes.applies found]

theorem Addresses.resolves {selectors : List Selector} {root target : Value}
    {place : List Value.Step} (addressed : Addresses selectors root place)
    (found : root.at? place = some target) (tolerant : Bool) :
    (selectors.map fun selector => Segment.child [selector]).foldlM
      (fun inputs segment => segment.resolve tolerant inputs) [root] = .ok [target] := by
  induction addressed with
  | here =>
      cases found
      rfl
  | step takes isPart _ ih =>
      obtain ⟨_, same, inside⟩ := Value.at?_cons.mp found
      cases Option.some.inj (isPart.symm.trans same)
      rw [List.map_cons, List.foldlM_cons]
      exact bind_eq_ok.mpr ⟨_, takes.resolves isPart tolerant, ih inside⟩

theorem fits_iff (n : Int) :
    fits n = true ↔ -0x8000000000000000 ≤ n ∧ n < 0x8000000000000000 := by
  simp [fits]

theorem Takes.fits {selector : Selector} {root part : Value} {step : Value.Step}
    (takes : Takes selector root step) (countable : root.Countable)
    (found : root.part? step = some part) : Fits selector := by
  cases takes with
  | name => trivial
  | fromStart =>
      obtain ⟨inside, _⟩ := List.getElem?_eq_some_iff.mp found
      cases countable with
      | array short _ => exact (fits_iff _).mpr (by omega)
  | fromEnd =>
      obtain ⟨inside, _⟩ := List.getElem?_eq_some_iff.mp found
      cases countable with
      | array short _ => exact (fits_iff _).mpr (by omega)

theorem Addresses.fits {selectors : List Selector} {root : Value} {place : List Value.Step}
    (addressed : Addresses selectors root place) (countable : root.Countable) :
    ∀ selector ∈ selectors, Fits selector := by
  induction addressed with
  | here => exact fun selector member => absurd member List.not_mem_nil
  | step takes found _ ih =>
      exact List.forall_mem_cons.mpr ⟨takes.fits countable found, ih (countable.part found)⟩

theorem address_passes {selectors : List Selector}
    (inside : ∀ selector ∈ selectors, Fits selector) :
    Passes .bare (selectors.flatMap fun selector => segmentText (.child [selector])) .bare := by
  induction selectors with
  | nil => exact passes_nil.mpr rfl
  | cons selector rest ih =>
      obtain ⟨fits, later⟩ := List.forall_mem_cons.mp inside
      have bracket := bracketText_spells (List.cons_ne_nil selector [])
        (List.forall_mem_singleton.mpr fits)
      exact passes_append.mpr ⟨.bare, passes_cons.mpr ⟨_, rfl, bracket.passes⟩, ih later⟩

theorem address_compiles {selectors : List Selector}
    (inside : ∀ selector ∈ selectors, Fits selector) :
    compile (String.ofList (addressText selectors)) = .ok ⟨String.ofList (addressText selectors),
      selectors.map fun selector => .child [selector]⟩ := by
  have writable : ∀ segment ∈ selectors.map fun selector => Segment.child [selector],
      Writable segment := by
    intro segment member
    obtain ⟨selector, given, rfl⟩ := List.mem_map.mp member
    exact ⟨List.cons_ne_nil selector [], List.forall_mem_singleton.mpr (inside selector given)⟩
  rw [compile_eq_ok_iff, String.toList_ofList]
  refine ⟨rfl, _, rfl, ?_⟩
  have spelled := segmentsText_spells writable
  rwa [List.flatMap_map] at spelled

end Query

namespace Template

theorem compile_query {text : String} {query : Query} {rest : List Char}
    (functions : Functions) (whole : text.toList = '$' :: rest)
    (passes : Query.Passes .bare rest .bare) (compiled : Query.compile text = .ok query) :
    compile functions text = .ok (ofNode (.query query)) := by
  have same : text = String.ofList ('$' :: rest) := by rw [← whole, String.ofList_toList]
  have nothing : Query.EndsQuery [] := by simp [Query.EndsQuery]
  have scanned := Query.lexFrom_query passes nothing .start
  rw [List.append_nil, ← whole, Source.lexFrom_nil] at scanned
  have parsed : Source.parse text = .ok (.extractor text .start) := by
    refine (Source.lexed_parse_iff (Source.lex text) _).mpr ?_
    rw [Source.lex, scanned, whole, ← same]
    exact ⟨⟨_, rfl⟩, .extractor rfl, Nat.zero_le _⟩
  rw [compile, parsed]
  refine bind_eq_ok.mpr ⟨_, rfl, bind_eq_ok.mpr ⟨.query query, ?_, rfl⟩⟩
  rw [Node.compile, compileQuery, compiled]
  rfl

end Template

/-- Every place in a value can be addressed, with indices from either end of an array, and a
template with the address renders what is there, null included, whatever the functions and the
policy are. -/
theorem Query.place_renders (functions : Functions) {root target : Value}
    {place : List Value.Step} (present : root.isNull = false) (countable : root.Countable)
    (found : root.at? place = some target) :
    (∃ selectors, Addresses selectors root place) ∧
    ∀ selectors, Addresses selectors root place → ∃ template,
      Template.compile functions (String.ofList (addressText selectors)) = .ok template ∧
      ∀ policy, template.renderWith policy root = .ok target ∧
        (template.withPolicy policy).render root = .ok target := by
  refine ⟨addresses_exists found, ?_⟩
  intro selectors addressed
  have inside := addressed.fits countable
  have passes := address_passes inside
  have compiled := address_compiles inside
  refine ⟨_, Template.compile_query functions String.toList_ofList passes compiled, ?_⟩
  intro policy
  have renders : Node.evaluate policy (.query ⟨String.ofList (addressText selectors),
      selectors.map fun selector => .child [selector]⟩) root = .ok target := by
    simp [Node.evaluate, Query.select?, present, Query.resolve,
      addressed.resolves found policy.tolerates, Value.ofMatches, bind, Except.bind, pure,
      Except.pure]
  exact ⟨renders, renders⟩

theorem Query.place_renders_quoted :
    let root : Value := .object [("it's ]", .array [.bool true, .null])]
    root.isNull = false ∧ root.Countable ∧ root.at? [.member "it's ]", .item 1] = some .null ∧
    Addresses [.name "it's ]", .index (-1)] root [.member "it's ]", .item 1] ∧
    ∃ template, Template.compile [] "$['it\\'s ]'][-1]" = .ok template ∧
      template.renderWith .errorOnMissing root = .ok .null := by
  intro root
  have countable : root.Countable := by
    refine .object (List.forall_mem_singleton.mpr (.array (by decide) ?_))
    exact List.forall_mem_cons.mpr ⟨.bool true, List.forall_mem_singleton.mpr .null⟩
  have last : Takes (.index (-1)) (.array [.bool true, .null]) (.item 1) :=
    @Takes.fromEnd [.bool true, .null] 1
  have addressed : Addresses [.name "it's ]", .index (-1)] root [.member "it's ]", .item 1] :=
    .step .name rfl (.step last rfl .here)
  have found : root.at? [.member "it's ]", .item 1] = some .null := rfl
  obtain ⟨template, compiled, renders⟩ := (place_renders [] rfl countable found).2 _ addressed
  exact ⟨rfl, countable, found, addressed, template, compiled, (renders .errorOnMissing).1⟩

end Stencil
