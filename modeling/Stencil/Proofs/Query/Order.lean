import Stencil.Proofs.Query.Descent
import Stencil.Proofs.Query.Failing

/-! The order of matches. Where every segment is a single selector for the parts of its inputs, the
matches lie equally deep in the root and come in document order. -/

namespace Stencil

open Value (Step)

def Selector.reached : List Selector → Value → List (List Step × Value)
  | [], root => [([], root)]
  | selector :: rest, root => (selector.picked root).flatMap fun entry =>
      (reached rest entry.2).map fun found => (entry.1 :: found.1, found.2)

/-- Every step to a place is one that its selector takes. -/
inductive Query.Followed : List Selector → Value → List Value.Step → Prop
  | here {root} : Followed [] root []
  | step {selector selectors root part place} {step : Value.Step} :
      (step, part) ∈ selector.picked root → Followed selectors part place →
      Followed (selector :: selectors) root (step :: place)

namespace Selector

theorem mem_reached_cons {selector : Selector} {rest : List Selector} {root target : Value}
    {place : List Step} :
    (place, target) ∈ reached (selector :: rest) root ↔
      ∃ step part inner, (step, part) ∈ selector.picked root ∧
        (inner, target) ∈ reached rest part ∧ place = step :: inner := by
  simp only [reached, List.mem_flatMap, List.mem_map, Prod.exists, Prod.mk.injEq]
  constructor
  · rintro ⟨step, part, picked, inner, _, inside, rfl, rfl⟩
    exact ⟨step, part, inner, picked, inside, rfl⟩
  · rintro ⟨step, part, inner, picked, inside, rfl⟩
    exact ⟨step, part, picked, inner, target, inside, rfl, rfl⟩

theorem length_reached {selectors : List Selector} {root target : Value} {place : List Step}
    (member : (place, target) ∈ reached selectors root) : place.length = selectors.length := by
  induction selectors generalizing root place with
  | nil =>
      simp only [reached, List.mem_singleton, Prod.mk.injEq] at member
      simp [member.1]
  | cons selector rest ih =>
      obtain ⟨step, part, inner, _, inside, rfl⟩ := mem_reached_cons.mp member
      simp [ih inside]

theorem reached_followed (selectors : List Selector) (root : Value) (place : List Step) :
    (∃ target, (place, target) ∈ reached selectors root) ↔ Query.Followed selectors root place := by
  induction selectors generalizing root place with
  | nil =>
      simp only [reached, List.mem_singleton, Prod.mk.injEq]
      constructor
      · rintro ⟨_, rfl, _⟩
        exact .here
      · rintro ⟨⟩
        simp
  | cons selector rest ih =>
      simp only [mem_reached_cons]
      constructor
      · rintro ⟨target, step, part, inner, picked, inside, rfl⟩
        exact .step picked ((ih part inner).mp ⟨target, inside⟩)
      · rintro (_ | ⟨picked, followed⟩)
        obtain ⟨target, inside⟩ := (ih _ _).mpr followed
        exact ⟨target, _, _, _, picked, inside, rfl⟩

section

variable {root : Value} (distinct : root.KeysDistinct)

include distinct

theorem reached_found {selectors : List Selector} {place : List Step} {target : Value}
    (member : (place, target) ∈ reached selectors root) : root.at? place = some target := by
  induction selectors generalizing root place with
  | nil =>
      simp only [reached, List.mem_singleton, Prod.mk.injEq] at member
      simp [member, Value.at?]
  | cons selector rest ih =>
      obtain ⟨step, part, inner, picked, inside, rfl⟩ := mem_reached_cons.mp member
      have entry := (selector.picked_sublist root).subset picked
      exact Value.at?_cons.mpr ⟨part, mem_picked distinct picked, ih (distinct.entry entry) inside⟩

theorem reached_ordered (selectors : List Selector) :
    (reached selectors root).Pairwise fun found other => root.Precedes found.1 other.1 := by
  induction selectors generalizing root with
  | nil => simp [reached]
  | cons selector rest ih =>
      apply Value.Precedes.behind distinct (selector.picked_sublist root)
      intro entry picked
      exact ih (distinct.entry ((selector.picked_sublist root).subset picked))

end

end Selector

theorem Segment.walk_reached {selectors : List Selector} {tolerant : Bool}
    {inputs found : List Value}
    (ran : walk tolerant (selectors.map fun selector => .child [selector]) inputs = .ok found) :
    found = inputs.flatMap fun input => (Selector.reached selectors input).map Prod.snd := by
  induction selectors generalizing inputs with
  | nil =>
      cases ran
      simp [Selector.reached]
  | cons selector rest ih =>
      rw [List.map_cons, walk_cons] at ran
      obtain ⟨middle, ranFirst, ranRest⟩ := bind_eq_ok.mp ran
      have takes := resolve_eq_taken ranFirst
      rw [ih ranRest, ← takes]
      simp [taken, selected, Selector.reached, Selector.parts_eq_picked, List.flatMap_assoc,
        List.flatMap_map, List.map_flatMap, Function.comp_def]

namespace Query

/-- A query with a single selector in each of its segments, and no recursive one, finds its matches
in document order. They are at different places of the root, each as deep as the query has segments:
at all those to which the selectors lead. -/
theorem matches_ordered {root : Value} (distinct : root.KeysDistinct) {query : Query}
    {selectors : List Selector}
    (single : query.segments = selectors.map fun selector => .child [selector]) {tolerant : Bool}
    {found : List Value} (resolves : query.resolve tolerant root = .ok found) :
    ∃ places, List.Forall₂ (fun place value => root.at? place = some value) places found ∧
      (∀ place ∈ places, place.length = query.segments.length) ∧ places.Nodup ∧
      places.Pairwise root.Precedes ∧ ∀ place, place ∈ places ↔ Followed selectors root place := by
  have matched : found = (Selector.reached selectors root).map Prod.snd := by
    rw [resolve_eq_walk, single] at resolves
    simpa using Segment.walk_reached resolves
  have ordered : ((Selector.reached selectors root).map Prod.fst).Pairwise root.Precedes :=
    List.pairwise_map.mpr (Selector.reached_ordered distinct selectors)
  refine ⟨(Selector.reached selectors root).map Prod.fst, ?_, ?_, ?_, ordered, ?_⟩
  · rw [matched]
    simp only [List.forall₂_map_left_iff, List.forall₂_map_right_iff, List.forall₂_same]
    intro pair member
    exact Selector.reached_found distinct member
  · intro place member
    obtain ⟨pair, inside, rfl⟩ := List.mem_map.mp member
    rw [single, List.length_map]
    exact Selector.length_reached inside
  · refine ordered.imp fun {place other} before => ?_
    rintro rfl
    exact Value.Precedes.irrefl distinct place before
  · intro place
    simp [← Selector.reached_followed]

theorem matches_ordered_sliced :
    let query : Query := ⟨"$[*][-3::2]", [.child [.wildcard],
      .child [.slice (some (-3)) none ⟨2, by decide⟩]]⟩
    let root : Value := .object [("b", .array [.null, .bool true, .null, .bool false]),
      ("a", .array [.null])]
    root.KeysDistinct ∧ query.resolve false root = .ok [.bool true, .bool false, .null] ∧
    ∃ places, List.Forall₂ (fun place value => root.at? place = some value) places
        [.bool true, .bool false, .null] ∧
      (∀ place ∈ places, place.length = 2) ∧ places.Nodup ∧ places.Pairwise root.Precedes ∧
      ∀ place, place ∈ places ↔
        Followed [.wildcard, .slice (some (-3)) none ⟨2, by decide⟩] root place := by
  intro query root
  have items : ∀ items : List Value, (∀ item ∈ items, item = .null ∨ ∃ b, item = .bool b) →
      (Value.array items).KeysDistinct := by
    intro items flat
    refine .array fun item member => ?_
    rcases flat item member with rfl | ⟨b, rfl⟩
    · exact .null
    · exact .bool b
  have distinct : root.KeysDistinct := by
    have names : ["b", "a"].Nodup := by decide
    exact .object names (List.forall_mem_cons.mpr
      ⟨items _ (by simp), List.forall_mem_singleton.mpr (items _ (by simp))⟩)
  have resolves : query.resolve false root = .ok [.bool true, .bool false, .null] := by cbv
  exact ⟨distinct, resolves, matches_ordered distinct rfl resolves⟩

end Query

end Stencil
