import Stencil.Proofs.Query.Composing

/-! How resolving a query fails. The walk comes to every segment with inputs that do not depend on
tolerance; the first segment at which something is wrong gives the error. -/

namespace Stencil

section

variable {α β : Type} {Found Same : α → β → Prop}

/-- What is found at the first item where anything is. -/
def First (Found : α → β → Prop) (items : List α) (result : β) : Prop :=
  ∃ before item after, items = before ++ item :: after ∧ Found item result ∧
    ∀ earlier ∈ before, ∀ other, ¬Found earlier other

theorem First.nil {result : β} : ¬First Found [] result := by
  rintro ⟨before, item, after, cut, _⟩
  cases before <;> cases cut

theorem First.cons {item : α} {rest : List α} {result : β} :
    First Found (item :: rest) result ↔
      Found item result ∨ (∀ other, ¬Found item other) ∧ First Found rest result := by
  constructor
  · rintro ⟨before, found, after, cut, holds, clean⟩
    cases before with
    | nil =>
        cases cut
        exact Or.inl holds
    | cons first before =>
        cases cut
        obtain ⟨here, later⟩ := List.forall_mem_cons.mp clean
        exact Or.inr ⟨here, before, found, after, rfl, holds, later⟩
  · rintro (holds | ⟨here, before, found, after, rfl, holds, later⟩)
    · exact ⟨[], item, rest, rfl, holds, List.forall_mem_nil _⟩
    · exact ⟨item :: before, found, after, rfl, holds, List.forall_mem_cons.mpr ⟨here, later⟩⟩

theorem First.exists_iff {items : List α} :
    (∃ result, First Found items result) ↔ ∃ item ∈ items, ∃ result, Found item result := by
  constructor
  · rintro ⟨result, before, item, after, rfl, holds, _⟩
    exact ⟨item, by simp, result, holds⟩
  · rintro ⟨item, member, holds⟩
    induction items with
    | nil => cases member
    | cons first rest ih =>
        by_cases here : ∃ result, Found first result
        · obtain ⟨result, found⟩ := here
          exact ⟨result, First.cons.mpr (Or.inl found)⟩
        · have later : item ∈ rest := by
            rcases List.mem_cons.mp member with rfl | later
            · exact absurd holds here
            · exact later
          obtain ⟨result, found⟩ := ih later
          exact ⟨result, First.cons.mpr (Or.inr ⟨not_exists.mp here, found⟩)⟩

theorem findSome?_eq_some_iff_first {find : α → Option β}
    (finds : ∀ item result, find item = some result ↔ Found item result) (items : List α)
    (result : β) : items.findSome? find = some result ↔ First Found items result := by
  have misses : ∀ item, find item = none ↔ ∀ other, ¬Found item other := by
    intro item
    simp only [Option.eq_none_iff_forall_ne_some, ne_eq, finds]
  simp only [List.findSome?_eq_some_iff, finds, misses, First]

end

def Outside (i : Int) (length : Nat) : Prop :=
  i < -(length : Int) ∨ (length : Int) ≤ i

theorem position?_eq_none_iff (i : Int) (length : Nat) :
    position? i length = none ↔ Outside i length := by
  unfold position? Outside
  simp only [ite_eq_right_iff, reduceCtorEq, imp_false]
  split <;> omega

namespace Selector

def Misplaced (selector : Selector) (input : Value) : Prop :=
  ((∃ i, selector = .index i) ∨ ∃ start stop step, selector = .slice start stop step) ∧
    input.items? = none ∧ input.isNull = false

def Overshoots (selector : Selector) (input : Value) : Prop :=
  ∃ i items, selector = .index i ∧ input = .array items ∧ Outside i items.length

inductive Refuses (tolerant : Bool) : Selector → Value → ResolveError → Prop
  | misplaced {selector input} : Misplaced selector input →
      Refuses tolerant selector input (.notAnArray input.typeName)
  | overshoots {i items} : tolerant = false → Outside i items.length →
      Refuses tolerant (.index i) (.array items) (.indexOutOfBounds i items.length)

theorem refuses_tolerant {selector : Selector} {input : Value} :
    (∃ error, Refuses true selector input error) ↔ Misplaced selector input := by
  constructor
  · rintro ⟨_, misplaced | ⟨strict, _⟩⟩
    · exact misplaced
    · cases strict
  · exact fun misplaced => ⟨_, .misplaced misplaced⟩

theorem refuses_strict {selector : Selector} {input : Value} :
    (∃ error, Refuses false selector input error) ↔
      Misplaced selector input ∨ Overshoots selector input := by
  constructor
  · rintro ⟨_, misplaced | ⟨_, outside⟩⟩
    · exact Or.inl misplaced
    · exact Or.inr ⟨_, _, rfl, rfl, outside⟩
  · rintro (misplaced | ⟨i, items, rfl, rfl, outside⟩)
    · exact ⟨_, .misplaced misplaced⟩
    · exact ⟨_, .overshoots rfl outside⟩

theorem fault?_eq_some_iff (tolerant : Bool) (selector : Selector) (input : Value)
    (error : ResolveError) :
    selector.fault? tolerant input = some error ↔ Refuses tolerant selector input error := by
  constructor
  · intro fault
    cases selector with
    | name _ => cases input <;> cases fault
    | wildcard => cases input <;> cases fault
    | index i =>
        cases input with
        | null => cases fault
        | array items =>
            rw [fault?] at fault
            split at fault
            next => cases fault
            next strict =>
              cases fault
              simp only [Bool.or_eq_true, not_or, Bool.not_eq_true, Option.isSome_eq_false_iff,
                Option.isNone_iff_eq_none, position?_eq_none_iff] at strict
              exact .overshoots strict.1 strict.2
        | _ =>
            cases fault
            exact .misplaced ⟨Or.inl ⟨i, rfl⟩, rfl, rfl⟩
    | slice start stop step =>
        cases input with
        | null => cases fault
        | array items => cases fault
        | _ =>
            cases fault
            exact .misplaced ⟨Or.inr ⟨start, stop, step, rfl⟩, rfl, rfl⟩
  · rintro (⟨counts, noItems, present⟩ | ⟨strict, outside⟩)
    · obtain ⟨i, rfl⟩ | ⟨start, stop, step, rfl⟩ := counts
      all_goals
        cases input with
        | null => cases present
        | array items => cases noItems
        | _ => rfl
    · simp [fault?, strict, (position?_eq_none_iff _ _).mpr outside]

theorem fault?_eq_none_iff (tolerant : Bool) (selector : Selector) (input : Value) :
    selector.fault? tolerant input = none ↔ ∀ error, ¬Refuses tolerant selector input error := by
  simp only [Option.eq_none_iff_forall_ne_some, ne_eq, fault?_eq_some_iff]

end Selector

theorem firstFault?_eq_some_iff (tolerant : Bool) (selectors : List Selector)
    (inputs : List Value) (error : ResolveError) :
    firstFault? tolerant selectors inputs = some error ↔
      First (fun input => First (fun selector => selector.Refuses tolerant input) selectors) inputs
        error :=
  findSome?_eq_some_iff_first (fun input => findSome?_eq_some_iff_first
    (fun selector => selector.fault?_eq_some_iff tolerant input) selectors) inputs error

theorem firstFault?_eq_none_iff (tolerant : Bool) (selectors : List Selector)
    (inputs : List Value) :
    firstFault? tolerant selectors inputs = none ↔
      ∀ input ∈ inputs, ∀ selector ∈ selectors, ∀ error, ¬selector.Refuses tolerant input error := by
  simp only [firstFault?, List.findSome?_eq_none_iff, Selector.fault?_eq_none_iff]

namespace Segment

/-- Names are asked for and nothing at all is found, in spite of inputs. -/
def Lost (selectors : List Selector) (inputs : List Value) : Prop :=
  (∃ name, .name name ∈ selectors) ∧ inputs ≠ [] ∧
    ∀ input ∈ inputs, ∀ selector ∈ selectors, selector.parts input = []

/-- Why a segment fails at its inputs. Only where every selector can be applied to every input does
it count that nothing is found. -/
inductive Fails (tolerant : Bool) (inputs : List Value) : Segment → ResolveError → Prop
  | refused {selectors error} :
      First (fun input => First (fun selector => selector.Refuses tolerant input) selectors) inputs
        error →
      Fails tolerant inputs (.child selectors) error
  | lost {selectors name} : tolerant = false →
      (∀ input ∈ inputs, ∀ selector ∈ selectors, ∀ error, ¬selector.Refuses tolerant input error) →
      Lost selectors inputs → First (fun selector name => selector = .name name) selectors name →
      Fails tolerant inputs (.child selectors) (.notFound name)

def taken (inputs : List Value) : Segment → List Value
  | child selectors => selected selectors inputs
  | descendant selectors => selected selectors (inputs.flatMap Value.descendants)

theorem lost_iff (selectors : List Selector) (inputs : List Value) :
    Lost selectors inputs ↔ (∃ name, .name name ∈ selectors) ∧ inputs ≠ [] ∧
      selected selectors inputs = [] := by
  simp [Lost, selected, List.flatMap_eq_nil_iff]

theorem firstName_iff (selectors : List Selector) (name : String) :
    selectors.findSome? (·.name?) = some name ↔
      First (fun selector name => selector = .name name) selectors name := by
  refine findSome?_eq_some_iff_first (fun selector name => ?_) selectors name
  cases selector <;> simp [Selector.name?]

theorem resolve_eq_error_iff (segment : Segment) (tolerant : Bool) (inputs : List Value)
    (error : ResolveError) :
    segment.resolve tolerant inputs = .error error ↔ segment.Fails tolerant inputs error := by
  cases segment with
  | descendant selectors => constructor <;> intro failed <;> cases failed
  | child selectors =>
      cases fault : firstFault? tolerant selectors inputs with
      | some reason =>
          have first := (firstFault?_eq_some_iff tolerant selectors inputs reason).mp fault
          simp only [resolve, fault, Except.error.injEq]
          constructor
          · rintro rfl
            exact .refused first
          · rintro (same | ⟨_, clean, _⟩)
            · rw [(firstFault?_eq_some_iff tolerant selectors inputs error).mpr same] at fault
              exact (Option.some.inj fault).symm
            · rw [(firstFault?_eq_none_iff tolerant selectors inputs).mpr clean] at fault
              cases fault
      | none =>
          have clean := (firstFault?_eq_none_iff tolerant selectors inputs).mp fault
          simp only [resolve, fault]
          constructor
          · intro failed
            split at failed
            next nothing =>
              simp only [Bool.and_eq_true, List.isEmpty_iff, Bool.not_eq_true',
                List.isEmpty_eq_false_iff] at nothing
              split at failed
              next name found =>
                cases failed
                have first := (firstName_iff selectors name).mp found
                obtain ⟨_, asked, other, rfl⟩ := First.exists_iff.mp ⟨name, first⟩
                have lost := (lost_iff selectors inputs).mpr
                  ⟨⟨other, asked⟩, nothing.1.2, nothing.1.1⟩
                exact .lost nothing.2 clean lost first
              next => cases failed
            next => cases failed
          · rintro (first | ⟨strict, _, lost, first⟩)
            · rw [(firstFault?_eq_some_iff tolerant selectors inputs error).mpr first] at fault
              cases fault
            · obtain ⟨_, some, nothing⟩ := (lost_iff selectors inputs).mp lost
              simp [nothing, some, strict, (firstName_iff selectors _).mpr first]

theorem resolve_eq_taken {segment : Segment} {tolerant : Bool} {inputs found : List Value}
    (ran : segment.resolve tolerant inputs = .ok found) : segment.taken inputs = found := by
  cases segment with
  | descendant selectors => exact Except.ok.inj ran
  | child selectors =>
      rw [resolve] at ran
      split at ran
      next => cases ran
      next =>
        dsimp only at ran
        split at ran
        next =>
          split at ran
          next => cases ran
          next => exact Except.ok.inj ran
        next => exact Except.ok.inj ran

theorem fails_iff (segment : Segment) (tolerant : Bool) (inputs : List Value) :
    (∃ error, segment.Fails tolerant inputs error) ↔ ∃ selectors, segment = .child selectors ∧
      ((∃ input ∈ inputs, ∃ selector ∈ selectors, ∃ error, selector.Refuses tolerant input error) ∨
        tolerant = false ∧ Lost selectors inputs) := by
  constructor
  · rintro ⟨_, first | ⟨strict, _, lost, _⟩⟩
    · obtain ⟨input, member, _, here⟩ := First.exists_iff.mp ⟨_, first⟩
      exact ⟨_, rfl, Or.inl ⟨input, member, First.exists_iff.mp ⟨_, here⟩⟩⟩
    · exact ⟨_, rfl, Or.inr ⟨strict, lost⟩⟩
  · rintro ⟨selectors, rfl, ⟨input, member, refused⟩ | ⟨strict, lost⟩⟩
    · have here : ∃ error, First (fun selector => selector.Refuses tolerant input) selectors error :=
        First.exists_iff.mpr refused
      have first : ∃ error, First (fun input => First (fun selector =>
          selector.Refuses tolerant input) selectors) inputs error :=
        First.exists_iff.mpr ⟨input, member, here⟩
      exact first.imp fun _ => .refused
    · -- a refusal counts first, so that nothing is found matters only where there is none
      cases fault : firstFault? tolerant selectors inputs with
      | some reason => exact ⟨_, .refused ((firstFault?_eq_some_iff _ _ _ _).mp fault)⟩
      | none =>
          obtain ⟨name, asked⟩ := lost.1
          have first : ∃ name, First (fun selector name => selector = .name name) selectors name :=
            First.exists_iff.mpr ⟨_, asked, name, rfl⟩
          exact first.elim fun _ first =>
            ⟨_, .lost strict ((firstFault?_eq_none_iff _ _ _).mp fault) lost first⟩

/-- The segments of a walk, each with the inputs it comes to if nothing is wrong before. -/
def stages : List Segment → List Value → List (Segment × List Value)
  | [], _ => []
  | segment :: rest, inputs => (segment, inputs) :: stages rest (segment.taken inputs)

theorem walk_eq_error_iff (segments : List Segment) (tolerant : Bool) (inputs : List Value)
    (error : ResolveError) :
    walk tolerant segments inputs = .error error ↔
      First (fun stage => stage.1.Fails tolerant stage.2) (stages segments inputs) error := by
  induction segments generalizing inputs with
  | nil => exact ⟨fun failed => (by cases failed), fun first => absurd first First.nil⟩
  | cons segment rest ih =>
      rw [walk_cons, bind_eq_error, stages, First.cons, resolve_eq_error_iff]
      refine or_congr Iff.rfl ⟨?_, ?_⟩
      · rintro ⟨found, ran, failed⟩
        cases resolve_eq_taken ran
        refine ⟨fun other fails => ?_, (ih _).mp failed⟩
        rw [(resolve_eq_error_iff segment tolerant inputs other).mpr fails] at ran
        cases ran
      · rintro ⟨clean, first⟩
        cases ran : segment.resolve tolerant inputs with
        | error other => exact absurd ((resolve_eq_error_iff _ _ _ _).mp ran) (clean other)
        | ok found =>
            cases resolve_eq_taken ran
            exact ⟨_, rfl, (ih _).mpr first⟩

theorem stages_behind {before : List Segment} {tolerant : Bool} {inputs found : List Value}
    (ran : walk tolerant before inputs = .ok found) (segment : Segment) (after : List Segment) :
    (stages (before ++ segment :: after) inputs)[before.length]? = some (segment, found) := by
  induction before generalizing inputs with
  | nil =>
      cases ran
      rfl
  | cons first rest ih =>
      obtain ⟨middle, ranFirst, ranRest⟩ := bind_eq_ok.mp ((walk_cons ..).symm.trans ran)
      cases resolve_eq_taken ranFirst
      exact ih ranRest

theorem walk_fails_iff (segments : List Segment) (tolerant : Bool) (inputs : List Value) :
    (∃ error, walk tolerant segments inputs = .error error) ↔
      ∃ selectors found, (.child selectors, found) ∈ stages segments inputs ∧
        ((∃ input ∈ found, ∃ selector ∈ selectors, ∃ error,
            selector.Refuses tolerant input error) ∨
          tolerant = false ∧ Lost selectors found) := by
  simp only [walk_eq_error_iff, First.exists_iff, fails_iff]
  constructor
  · rintro ⟨⟨_, found⟩, member, selectors, rfl, wrong⟩
    exact ⟨selectors, found, member, wrong⟩
  · rintro ⟨selectors, found, member, wrong⟩
    exact ⟨_, member, selectors, rfl, wrong⟩

end Segment

/-- A query comes to its segments with the matches of those in front. With tolerance it fails where
an index or a slice meets something that is neither an array nor null, and without tolerance also
where an index overshoots or names lead nowhere at all. The error is that of the first segment with
anything wrong, and there of the first input and then the first selector; a name counts only where
every selector can be applied, and it is the first one. Recursive segments never fail. -/
theorem Query.fails_first (query : Query) (root : Value) :
    let stages := Segment.stages query.segments [root]
    (∀ before segment after tolerant inputs, query.segments = before ++ segment :: after →
      ({ query with segments := before } : Query).resolve tolerant root = .ok inputs →
      stages[before.length]? = some (segment, inputs)) ∧
    ((∃ error, query.resolve true root = .error error) ↔
      ∃ selectors inputs, (.child selectors, inputs) ∈ stages ∧
        ∃ input ∈ inputs, ∃ selector ∈ selectors, selector.Misplaced input) ∧
    ((∃ error, query.resolve false root = .error error) ↔
      ∃ selectors inputs, (.child selectors, inputs) ∈ stages ∧
        ((∃ input ∈ inputs, ∃ selector ∈ selectors,
            selector.Misplaced input ∨ selector.Overshoots input) ∨
          Segment.Lost selectors inputs)) ∧
    (∀ tolerant error, query.resolve tolerant root = .error error ↔
      First (fun stage => stage.1.Fails tolerant stage.2) stages error) ∧
    ∀ tolerant selectors inputs, ∃ found,
      (Segment.descendant selectors).resolve tolerant inputs = .ok found := by
  refine ⟨?_, ?_, ?_, ?_, ?_⟩
  · intro before segment after tolerant inputs cut ran
    rw [cut]
    exact Segment.stages_behind ran segment after
  · simp only [resolve_eq_walk, Segment.walk_fails_iff, Selector.refuses_tolerant,
      Bool.true_eq_false, false_and, or_false]
  · simp only [resolve_eq_walk, Segment.walk_fails_iff, Selector.refuses_strict, true_and]
  · exact fun tolerant error => Segment.walk_eq_error_iff query.segments tolerant [root] error
  · exact fun _ _ _ => ⟨_, rfl⟩

end Stencil
