import Stencil.Proofs.Query.Composing
import Stencil.Proofs.Query.Places

/-! Recursive steps. What they find is given by the places in a value: a selector takes parts of
everything inside it, and no part twice. -/

namespace Stencil

section

variable {α β : Type}

theorem everyNth_sublist (step : { step : Nat // 0 < step }) (items : List α) :
    (everyNth step items).Sublist items := by
  induction items using everyNth.induct step with
  | case1 => rw [everyNth]
  | case2 item rest ih =>
      rw [everyNth]
      exact (ih.trans (List.drop_sublist _ _)).cons_cons item

theorem everyNth_map (f : α → β) (step : { step : Nat // 0 < step }) (items : List α) :
    everyNth step (items.map f) = (everyNth step items).map f := by
  induction items using everyNth.induct step with
  | case1 => simp [everyNth]
  | case2 item rest ih => rw [List.map_cons, everyNth, everyNth, List.map_cons, ← ih, List.map_drop]

theorem sliceOf_sublist (start stop : Option Int) (step : { step : Nat // 0 < step })
    (items : List α) : (sliceOf start stop step items).Sublist items :=
  (everyNth_sublist step _).trans ((List.drop_sublist _ _).trans (List.take_sublist _ _))

theorem sliceOf_map (f : α → β) (start stop : Option Int) (step : { step : Nat // 0 < step })
    (items : List α) :
    sliceOf start stop step (items.map f) = (sliceOf start stop step items).map f := by
  simp only [sliceOf, List.length_map, ← List.map_take, ← List.map_drop, everyNth_map]

end

open Value (Step)

namespace Selector

def picked (selector : Selector) (value : Value) : List (Step × Value) :=
  match selector, value with
  | name key, .object members =>
    (Members.get? key members).toList.map fun part => (.member key, part)
  | wildcard, value => value.entries
  | index i, .array items =>
    match position? i items.length with
    | some position => items[position]?.toList.map fun part => (.item position, part)
    | none => []
  | slice start stop step, .array items => sliceOf start stop step (Value.array items).entries
  | _, _ => []

theorem parts_eq_picked (selector : Selector) (value : Value) :
    selector.parts value = (selector.picked value).map Prod.snd := by
  have contents : ∀ items : List Value, (Value.array items).entries.map Prod.snd = items := by
    intro items
    rw [Value.entries, List.map_map]
    exact List.zipIdx_map_fst 0 items
  cases selector with
  | name key => cases value <;> simp [parts, picked]
  | wildcard =>
      cases value with
      | array items => exact (contents items).symm
      | object members => simp [parts, picked, Value.entries]
      | _ => rfl
  | index i =>
      cases value with
      | array items =>
          cases found : position? i items.length <;> simp [parts, picked, found]
      | _ => rfl
  | slice start stop step =>
      cases value with
      | array items =>
          simp only [parts, picked]
          rw [← sliceOf_map, contents]
      | _ => rfl

theorem picked_sublist (selector : Selector) (value : Value) :
    (selector.picked value).Sublist value.entries := by
  cases selector with
  | name key =>
      cases value with
      | object members =>
          simp only [picked]
          cases found : Members.get? key members with
          | none => exact List.nil_sublist _
          | some part =>
              exact List.singleton_sublist.mpr
                (List.mem_map.mpr ⟨_, Members.mem_of_get? found, rfl⟩)
      | _ => exact List.nil_sublist _
  | wildcard => cases value <;> exact List.Sublist.refl _
  | index i =>
      cases value with
      | array items =>
          simp only [picked]
          split
          next position _ =>
            cases found : items[position]? with
            | none => exact List.nil_sublist _
            | some part =>
                have inside := List.mk_mem_zipIdx_iff_getElem?.mpr found
                exact List.singleton_sublist.mpr (List.mem_map.mpr ⟨_, inside, rfl⟩)
          next => exact List.nil_sublist _
      | _ => exact List.nil_sublist _
  | slice start stop step =>
      cases value with
      | array items => exact sliceOf_sublist start stop step _
      | _ => exact List.nil_sublist _

theorem mem_picked {selector : Selector} {value : Value} (distinct : value.KeysDistinct)
    {entry : Step × Value} (picked : entry ∈ selector.picked value) :
    value.part? entry.1 = some entry.2 :=
  (Value.mem_entries distinct).mp ((selector.picked_sublist value).subset picked)

theorem picked_wildcard (value : Value) : wildcard.picked value = value.entries := by
  cases value <;> rfl

theorem mem_picked_name {name : String} {value : Value} {entry : Step × Value} :
    entry ∈ (Selector.name name).picked value ↔
      entry.1 = .member name ∧ value.part? entry.1 = some entry.2 := by
  obtain ⟨step, part⟩ := entry
  cases value with
  | object members =>
      simp only [picked, List.mem_map, Option.mem_toList, Prod.mk.injEq]
      constructor
      · rintro ⟨_, found, rfl, rfl⟩
        exact ⟨rfl, found⟩
      · rintro ⟨rfl, found⟩
        exact ⟨part, found, rfl, rfl⟩
  | _ => simp +contextual [picked, Value.part?]

theorem position?_eq_some_iff {i : Int} {length position : Nat} :
    position? i length = some position ↔
      position < length ∧ (i = position ∨ i = (position : Int) - (length : Int)) := by
  constructor
  · intro found
    simp only [position?, Option.ite_none_right_eq_some, Option.some.injEq] at found
    split at found <;> omega
  · rintro ⟨inside, rfl | rfl⟩
    · exact Query.position?_fromStart inside
    · exact Query.position?_fromEnd inside

theorem mem_picked_index {i : Int} {value : Value} {entry : Step × Value} :
    entry ∈ (Selector.index i).picked value ↔
      ∃ items position, value = .array items ∧ entry.1 = .item position ∧
        items[position]? = some entry.2 ∧
        (i = (position : Nat) ∨ i = (position : Int) - (items.length : Int)) := by
  obtain ⟨step, part⟩ := entry
  cases value with
  | array items =>
      constructor
      · intro member
        simp only [picked] at member
        split at member
        next position means =>
          obtain ⟨_, found, same⟩ := List.mem_map.mp member
          cases same
          exact ⟨items, position, rfl, rfl, Option.mem_toList.mp found,
            (position?_eq_some_iff.mp means).2⟩
        next => cases member
      · rintro ⟨_, position, ⟨⟩, rfl, found, counts⟩
        obtain ⟨inside, _⟩ := List.getElem?_eq_some_iff.mp found
        have means := position?_eq_some_iff.mpr ⟨inside, counts⟩
        simp [picked, means, found]
  | _ => simp [picked]

/-- What a selector takes from everything inside a value, each with its place. -/
def sought (selector : Selector) (root : Value) : List (List Step × Value) :=
  root.located.flatMap fun found =>
    (selector.picked found.2).map fun entry => (found.1 ++ [entry.1], entry.2)

theorem resolve_sought (selector : Selector) (tolerant : Bool) (root : Value) :
    (Segment.descendant [selector]).resolve tolerant [root] =
      .ok ((selector.sought root).map Prod.snd) := by
  rw [Segment.resolve, selected, List.flatMap_singleton, Value.descendants_located,
    List.flatMap_map, sought, List.map_flatMap]
  simp [parts_eq_picked, Function.comp_def]

end Selector

namespace Value

theorem at?_concat {root target : Value} {parent : List Step} {step : Step} :
    root.at? (parent ++ [step]) = some target ↔
      ∃ value, root.at? parent = some value ∧ value.part? step = some target := by
  simp [at?, List.foldlM_append, Option.bind_eq_some_iff]

theorem KeysDistinct.at {root value : Value} (distinct : root.KeysDistinct) {place : List Step}
    (found : root.at? place = some value) : value.KeysDistinct := by
  induction place generalizing root with
  | nil =>
      cases found
      exact distinct
  | cons step place ih =>
      obtain ⟨part, isPart, inside⟩ := at?_cons.mp found
      exact ih (distinct.entry ((mem_entries distinct).mpr isPart)) inside

/-- One place comes before another: its parent does, or they have the same parent and it comes
first there. -/
def ByParent (root : Value) (place other : List Step) : Prop :=
  root.Precedes place.dropLast other.dropLast ∨
    place.dropLast = other.dropLast ∧ root.Precedes place other

theorem ByParent.ne {root : Value} (distinct : root.KeysDistinct) {place other : List Step}
    (ordered : root.ByParent place other) : place ≠ other := by
  rintro rfl
  rcases ordered with parents | ⟨_, places⟩
  · exact Precedes.irrefl distinct _ parents
  · exact Precedes.irrefl distinct _ places

end Value

namespace Selector

variable {root : Value} (distinct : root.KeysDistinct)

include distinct

theorem mem_sought (selector : Selector) {place : List Step} {target : Value} :
    (place, target) ∈ selector.sought root ↔
      ∃ parent value step, root.at? parent = some value ∧
        (step, target) ∈ selector.picked value ∧ place = parent ++ [step] := by
  simp only [sought, List.mem_flatMap, List.mem_map]
  constructor
  · rintro ⟨⟨parent, value⟩, inside, ⟨step, _⟩, picked, same⟩
    cases same
    exact ⟨parent, value, step, (Value.mem_located distinct).mp inside, picked, rfl⟩
  · rintro ⟨parent, value, step, found, picked, rfl⟩
    exact ⟨_, (Value.mem_located distinct).mpr found, _, picked, rfl⟩

theorem sought_found {selector : Selector} {place : List Step} {target : Value}
    (member : (place, target) ∈ selector.sought root) : root.at? place = some target := by
  obtain ⟨parent, value, step, found, picked, rfl⟩ := (mem_sought distinct selector).mp member
  exact Value.at?_concat.mpr ⟨value, found, mem_picked (distinct.at found) picked⟩

theorem sought_ordered (selector : Selector) :
    ((selector.sought root).map Prod.fst).Pairwise root.ByParent := by
  rw [List.pairwise_map, sought, List.pairwise_flatMap]
  constructor
  · intro found inside
    have located := (Value.mem_located distinct).mp inside
    have inOrder := found.2.steps_ordered.sublist (selector.picked_sublist found.2)
    refine List.pairwise_map.mpr (inOrder.imp fun {entry other} before => Or.inr ⟨by simp, ?_⟩)
    exact Value.Precedes.append located (.beside before)
  · refine (Value.located_ordered distinct).imp fun precedes found inside other insideToo => ?_
    obtain ⟨_, _, rfl⟩ := List.mem_map.mp inside
    obtain ⟨_, _, rfl⟩ := List.mem_map.mp insideToo
    left
    simpa using precedes

end Selector

namespace Query

/-- The query finds what is at the places that are wanted, each of them once, in the order of their
parents and then in that of the places. -/
def Lists (query : Query) (root : Value) (wanted : List Value.Step → Prop) : Prop :=
  ∃ places found, (∀ tolerant, query.resolve tolerant root = .ok found) ∧
    List.Forall₂ (fun place value => root.at? place = some value) places found ∧
    places.Nodup ∧ places.Pairwise root.ByParent ∧ ∀ place, place ∈ places ↔ wanted place

theorem descent_lists {root : Value} (distinct : root.KeysDistinct) {selector : Selector}
    {query : Query} (segments : query.segments = [.descendant [selector]]) :
    query.Lists root fun place => ∃ target, (place, target) ∈ selector.sought root := by
  refine ⟨(selector.sought root).map Prod.fst, (selector.sought root).map Prod.snd, ?_, ?_, ?_,
    selector.sought_ordered distinct, ?_⟩
  · intro tolerant
    rw [resolve_eq_walk, segments, Segment.walk_cons, selector.resolve_sought]
    rfl
  · simp only [List.forall₂_map_left_iff, List.forall₂_map_right_iff, List.forall₂_same]
    exact fun pair member => Selector.sought_found distinct member
  · exact (selector.sought_ordered distinct).imp (Value.ByParent.ne distinct)
  · intro place
    simp

theorem compile_descent {text : String} {rest : List Char} {selector : Selector}
    (whole : text.toList = '$' :: rest) (spelled : SegmentText rest (.descendant [selector])) :
    compile text = .ok ⟨text, [.descendant [selector]]⟩ := by
  refine (compile_eq_ok_iff text _).mpr ⟨rfl, rest, whole, ?_⟩
  have segments := SegmentsText.cons spelled .nil
  rwa [List.append_nil] at segments

theorem Lists.congr {query : Query} {root : Value} {wanted others : List Value.Step → Prop}
    (lists : query.Lists root wanted) (same : ∀ place, wanted place ↔ others place) :
    query.Lists root others := by
  obtain ⟨places, found, resolves, holds, nodup, ordered, listed⟩ := lists
  exact ⟨places, found, resolves, holds, nodup, ordered, fun place => (listed place).trans (same place)⟩

section

variable {root : Value} (distinct : root.KeysDistinct) (place : List Value.Step)

include distinct

theorem sought_name (name : String) :
    (∃ target, (place, target) ∈ (Selector.name name).sought root) ↔
      (root.at? place).isSome ∧ ∃ parent, place = parent ++ [.member name] := by
  simp only [Selector.mem_sought distinct, Selector.mem_picked_name, Option.isSome_iff_exists]
  constructor
  · rintro ⟨target, parent, value, _, found, ⟨rfl, part⟩, rfl⟩
    exact ⟨⟨target, Value.at?_concat.mpr ⟨value, found, part⟩⟩, parent, rfl⟩
  · rintro ⟨⟨target, whole⟩, parent, rfl⟩
    obtain ⟨value, found, part⟩ := Value.at?_concat.mp whole
    exact ⟨target, parent, value, _, found, ⟨rfl, part⟩, rfl⟩

theorem sought_wildcard :
    (∃ target, (place, target) ∈ Selector.wildcard.sought root) ↔
      (root.at? place).isSome ∧ place ≠ [] := by
  simp only [Option.isSome_iff_exists]
  constructor
  · rintro ⟨target, member⟩
    obtain ⟨parent, _, step, _, _, rfl⟩ := (Selector.mem_sought distinct _).mp member
    exact ⟨⟨target, Selector.sought_found distinct member⟩, by simp⟩
  · rintro ⟨⟨target, whole⟩, some⟩
    obtain ⟨parent, step, rfl⟩ := (List.eq_nil_or_concat' place).resolve_left some
    obtain ⟨value, found, part⟩ := Value.at?_concat.mp whole
    have picked := (Value.mem_entries (distinct.at found)).mpr part
    exact ⟨target, (Selector.mem_sought distinct _).mpr
      ⟨parent, value, step, found, Selector.picked_wildcard value ▸ picked, rfl⟩⟩

theorem sought_index (i : Int) :
    (∃ target, (place, target) ∈ (Selector.index i).sought root) ↔
      ∃ parent items position, place = parent ++ [.item position] ∧
        root.at? parent = some (.array items) ∧ position < items.length ∧
        (i = (position : Nat) ∨ i = (position : Int) - (items.length : Int)) := by
  simp only [Selector.mem_sought distinct, Selector.mem_picked_index]
  constructor
  · rintro ⟨target, parent, _, _, found, ⟨items, position, rfl, rfl, part, counts⟩, rfl⟩
    obtain ⟨inside, _⟩ := List.getElem?_eq_some_iff.mp part
    exact ⟨parent, items, position, rfl, found, inside, counts⟩
  · rintro ⟨parent, items, position, rfl, found, inside, counts⟩
    exact ⟨_, parent, _, _, found,
      ⟨items, position, rfl, rfl, List.getElem?_eq_getElem inside, counts⟩, rfl⟩

end

/-- What recursive steps find in a value. A name finds the members of that name, a star everything
but the value itself, and an index an element of every array that has it: each of them once, in the
order in which the objects and arrays that hold them are come across, containers before their
contents, and within one of these in its own order. Nothing makes them fail. -/
theorem descents_complete {root : Value} (distinct : root.KeysDistinct) :
    (∀ name,
      let wanted := fun place : List Value.Step =>
        (root.at? place).isSome ∧ ∃ parent, place = parent ++ [.member name]
      (∃ query, compile ("$..['" ++ String.ofList (escaped name.toList) ++ "']") = .ok query ∧
        query.Lists root wanted) ∧
      (name ≠ "" → (∀ c ∈ name.toList, isMemberCharacter c = true) →
        ∃ query, compile ("$.." ++ name) = .ok query ∧ query.Lists root wanted)) ∧
    (∃ query, compile "$..*" = .ok query ∧
      query.Lists root fun place => (root.at? place).isSome ∧ place ≠ []) ∧
    ∀ i, fits i = true →
      ∃ query, compile ("$..[" ++ String.ofList (integerText i) ++ "]") = .ok query ∧
        query.Lists root fun place => ∃ parent items position,
          place = parent ++ [.item position] ∧ root.at? parent = some (.array items) ∧
          position < items.length ∧
          (i = (position : Nat) ∨ i = (position : Int) - (items.length : Int)) := by
  have lists : ∀ selector text rest, text.toList = '$' :: rest →
      SegmentText rest (.descendant [selector]) → ∃ query, compile text = .ok query ∧
        query.Lists root fun place => ∃ target, (place, target) ∈ selector.sought root :=
    fun _ _ _ whole spelled => ⟨_, compile_descent whole spelled, descent_lists distinct rfl⟩
  refine ⟨fun name => ⟨?_, fun some all => ?_⟩, ?_, fun i inside => ?_⟩
  · have spelled : SegmentText (segmentText (.descendant [.name name])) (.descendant [.name name]) :=
      .deepBracket (bracketText_spells (List.cons_ne_nil _ _) (List.forall_mem_singleton.mpr trivial))
    obtain ⟨query, compiled, finds⟩ :=
      lists _ ("$..['" ++ String.ofList (escaped name.toList) ++ "']") _
        (by simp [segmentText, bracketText, selectorText]) spelled
    exact ⟨query, compiled, finds.congr fun place => sought_name distinct place name⟩
  · have spelled : DottedText name.toList (.name (String.ofList name.toList)) :=
      .name (mt String.toList_eq_nil_iff.mp some) all
    rw [String.ofList_toList] at spelled
    obtain ⟨query, compiled, finds⟩ := lists _ ("$.." ++ name) _ (by simp) (.deepDotted spelled)
    exact ⟨query, compiled, finds.congr fun place => sought_name distinct place name⟩
  · obtain ⟨query, compiled, finds⟩ := lists _ "$..*" _ rfl (.deepDotted .wildcard)
    exact ⟨query, compiled, finds.congr fun place => sought_wildcard distinct place⟩
  · have spelled : SegmentText (segmentText (.descendant [.index i])) (.descendant [.index i]) :=
      .deepBracket (bracketText_spells (List.cons_ne_nil _ _) (List.forall_mem_singleton.mpr inside))
    obtain ⟨query, compiled, finds⟩ :=
      lists _ ("$..[" ++ String.ofList (integerText i) ++ "]") _
        (by simp [segmentText, bracketText, selectorText]) spelled
    exact ⟨query, compiled, finds.congr fun place => sought_index distinct place i⟩

theorem descents_complete_nested :
    let nested : Value := .array [.null, .object [("it's", .bool true)]]
    let root : Value := .object [("it's", nested)]
    root.KeysDistinct ∧
    ∃ query, compile ("$..['" ++ String.ofList (escaped "it's".toList) ++ "']") = .ok query ∧
      query.resolve false root = .ok [nested, .bool true] ∧
      query.Lists root fun place =>
        (root.at? place).isSome ∧ ∃ parent, place = parent ++ [.member "it's"] := by
  intro nested root
  have single : ∀ value : Value, value.KeysDistinct →
      (Value.object [("it's", value)]).KeysDistinct :=
    fun value distinct => .object (List.nodup_singleton _) (List.forall_mem_singleton.mpr distinct)
  have distinct : root.KeysDistinct :=
    single _ (.array (List.forall_mem_cons.mpr
      ⟨.null, List.forall_mem_singleton.mpr (single _ (.bool true))⟩))
  obtain ⟨query, compiled, lists⟩ := ((descents_complete distinct).1 "it's").1
  have known : compile ("$..['" ++ String.ofList (escaped "it's".toList) ++ "']") =
      .ok ⟨"$..['it\\'s']", [.descendant [.name "it's"]]⟩ := by cbv
  cases compiled.symm.trans known
  exact ⟨distinct, _, known, rfl, lists⟩

end Query

end Stencil
