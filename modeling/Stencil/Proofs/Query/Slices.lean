import Mathlib
import Stencil.Proofs.Query.Descent
import Stencil.Proofs.Query.Failing

/-! Which elements an index and a slice select. A slice is every so many positions from one bound up
to another, and neither leads out of the array, whatever integers the query has. -/

namespace Stencil

theorem mem_everyNth_range' (step : { step : Nat // 0 < step }) (first count position : Nat) :
    position ∈ everyNth step (List.range' first count) ↔
      first ≤ position ∧ position < first + count ∧ step.val ∣ position - first := by
  have positive := step.property
  induction count using Nat.strongRecOn generalizing first with
  | ind count ih =>
      cases count with
      | zero =>
          simp only [List.range'_zero, everyNth, List.not_mem_nil, false_iff]
          omega
      | succ count =>
          have smaller : count - (step.val - 1) < count + 1 := by omega
          have next : first + 1 + (step.val - 1) * 1 = first + step.val := by omega
          have later : position ∈ everyNth step
              (List.range' (first + step.val) (count - (step.val - 1))) ↔ _ := ih _ smaller _
          rw [List.range'_succ, everyNth, List.mem_cons, List.drop_range', next, later]
          constructor
          · rintro (rfl | ⟨lower, upper, divides⟩)
            · exact ⟨Nat.le_refl _, by omega, by simp⟩
            · have distance : position - first = (position - (first + step.val)) + step.val := by
                omega
              rw [distance]
              exact ⟨by omega, by omega, Nat.dvd_add_self_right.mpr divides⟩
          · rintro ⟨lower, upper, divides⟩
            by_cases near : position < first + step.val
            · have same : position - first = 0 := Nat.eq_zero_of_dvd_of_lt divides (by omega)
              left
              omega
            · have distance : position - first = (position - (first + step.val)) + step.val := by
                omega
              rw [distance] at divides
              exact Or.inr ⟨by omega, by omega, Nat.dvd_add_self_right.mp divides⟩

theorem everyNth_one {α : Type} (items : List α) : everyNth ⟨1, Nat.one_pos⟩ items = items := by
  induction items with
  | nil => rw [everyNth]
  | cons item rest ih =>
      rw [everyNth]
      exact congrArg (item :: ·) ih

/-- The place of a bound in an array, counted from the start. One that is not in the array is at the
nearer end of it. -/
def boundPlace (length : Nat) (bound : Int) : Int :=
  max 0 (min length (if 0 ≤ bound then bound else length + bound))

theorem clamp_eq (length : Nat) (bound : Int) :
    (clamp length bound : Int) = boundPlace length bound := by
  unfold clamp boundPlace
  split <;> split <;> omega

theorem bound_eq (bound : Option Int) (length fallback : Nat) :
    (((bound.map (clamp length)).getD fallback : Nat) : Int) =
      (bound.map (boundPlace length)).getD fallback := by
  cases bound with
  | none => rfl
  | some bound => exact clamp_eq length bound

theorem bound_le (bound : Option Int) {length fallback : Nat} (inside : fallback ≤ length) :
    (bound.map (clamp length)).getD fallback ≤ length := by
  cases bound with
  | none => exact inside
  | some bound =>
      simp only [Option.map_some, Option.getD_some, clamp]
      split <;> omega

namespace Query

/-- The positions of a slice: those from its first bound up to its second one which are some number
of steps behind the first. -/
@[mk_iff]
structure InSlice (start stop : Option Int) (step length position : Nat) : Prop where
  behind : (start.map (boundPlace length)).getD 0 ≤ position
  before : position < (stop.map (boundPlace length)).getD length
  apart : (step : Int) ∣ position - (start.map (boundPlace length)).getD 0

end Query

theorem mem_sliceOf_range (start stop : Option Int) (step : { step : Nat // 0 < step })
    (length position : Nat) :
    position ∈ sliceOf start stop step (List.range length) ↔
      Query.InSlice start stop step length position := by
  have first := bound_eq start length 0
  have last := bound_eq stop length length
  have inside := bound_le stop (Nat.le_refl length)
  rw [Nat.cast_zero] at first
  rw [Query.inSlice_iff, ← first, ← last, sliceOf, List.length_range]
  generalize (start.map (clamp length)).getD 0 = first
  generalize (stop.map (clamp length)).getD length = last at inside ⊢
  rw [List.take_range, Nat.min_eq_left inside, List.range_eq_range', List.drop_range', Nat.zero_add,
    Nat.mul_one, mem_everyNth_range']
  by_cases behind : first ≤ position
  · have distance : (position : Int) - first = (position - first : Nat) := by omega
    rw [distance, Int.natCast_dvd_natCast]
    omega
  · omega

theorem sliceOf_positions {α : Type} (start stop : Option Int) (step : { step : Nat // 0 < step })
    (items : List α) : List.Forall₂ (fun position item => items[position]? = some item)
      (sliceOf start stop step (List.range items.length)) (sliceOf start stop step items) := by
  have each : (List.range items.length).map (fun position => items[position]?) =
      items.map some := by
    apply List.ext_getElem
    · simp
    · intro position below _
      rw [List.length_map, List.length_range] at below
      simp [below]
  have same := congrArg (sliceOf start stop step) each
  rw [sliceOf_map, sliceOf_map, ← List.forall₂_eq_eq_eq] at same
  rwa [List.forall₂_map_left_iff, List.forall₂_map_right_iff] at same

theorem sliceOf_increasing (start stop : Option Int) (step : { step : Nat // 0 < step })
    (length : Nat) : (sliceOf start stop step (List.range length)).Pairwise (· < ·) :=
  List.pairwise_lt_range.sublist (sliceOf_sublist start stop step _)

theorem sliceOf_parts {α : Type} (bound : Int) (items : List α) :
    sliceOf none (some bound) ⟨1, Nat.one_pos⟩ items ++
      sliceOf (some bound) none ⟨1, Nat.one_pos⟩ items = items := by
  simp only [sliceOf, everyNth_one, Option.map_none, Option.map_some, Option.getD_none,
    Option.getD_some, List.drop_zero, List.take_length, List.take_append_drop]

def word? (largest n : Nat) : Option Nat :=
  if n ≤ largest then some n else none

def wordPosition? (largest : Nat) (index : Int) (length : Nat) : Option Nat := do
  let position ←
    if 0 ≤ index then word? largest index.toNat
    else do
      let back ← word? largest index.natAbs
      if back ≤ length then some (length - back) else none
  if position < length then some position else none

def wordClamp (largest length : Nat) (bound : Int) : Nat :=
  if bound < 0 then length - (word? largest bound.natAbs).getD largest
  else min ((word? largest bound.toNat).getD largest) length

def wordRange (largest : Nat) (start stop : Option Int) (length : Nat) : Nat × Nat :=
  let first := (start.map (wordClamp largest length)).getD 0
  let last := (stop.map (wordClamp largest length)).getD length
  (first, max last first)

section

variable {largest length : Nat} (fits : length ≤ largest)
include fits

theorem wordPosition?_eq (index : Int) :
    wordPosition? largest index length = position? index length := by
  unfold wordPosition? word? position?
  by_cases positive : 0 ≤ index
  · by_cases inside : index < length
    · have fitting : index.toNat ≤ largest := by omega
      have below : index.toNat < length := by omega
      simp [positive, fitting, below, inside]
    · have outside : ¬index.toNat < length := by omega
      simp only [positive, if_true, true_and, inside, if_false]
      split <;> simp [outside]
  · by_cases inside : index.natAbs ≤ length
    · have fitting : index.natAbs ≤ largest := by omega
      have place : 0 ≤ length + index ∧ length + index < length := by omega
      have same : length - index.natAbs = (length + index).toNat := by omega
      have below : (length + index).toNat < length := by omega
      simp only [positive, if_false, fitting, inside, if_true, Option.bind_eq_bind,
        Option.bind_some, same, below, place, and_self]
    · have outside : ¬(0 ≤ length + index ∧ length + index < length) := by omega
      simp only [positive, if_false, outside]
      split <;> simp [inside]

theorem wordClamp_eq (bound : Int) : wordClamp largest length bound = clamp length bound := by
  unfold wordClamp clamp word?
  split <;> split <;> simp only [Option.getD_some, Option.getD_none] <;> omega

theorem wordRange_eq (start stop : Option Int) : wordRange largest start stop length =
    ((start.map (clamp length)).getD 0,
      max ((stop.map (clamp length)).getD length) ((start.map (clamp length)).getD 0)) := by
  have same : wordClamp largest length = clamp length := funext (wordClamp_eq fits)
  rw [wordRange, same]

theorem wordRange_inside (start stop : Option Int) :
    (wordRange largest start stop length).1 ≤ (wordRange largest start stop length).2 ∧
      (wordRange largest start stop length).2 ≤ length := by
  have first := bound_le start (Nat.zero_le length)
  have last := bound_le stop (Nat.le_refl length)
  rw [wordRange_eq fits]
  omega

end

theorem sliceOf_wordRange {α : Type} {largest : Nat} {items : List α}
    (fits : items.length ≤ largest) (start stop : Option Int)
    (step : { step : Nat // 0 < step }) :
    let range := wordRange largest start stop items.length
    sliceOf start stop step items = everyNth step ((items.take range.2).drop range.1) := by
  rw [wordRange_eq fits, sliceOf]
  generalize (start.map (clamp items.length)).getD 0 = first
  generalize (stop.map (clamp items.length)).getD items.length = last
  by_cases ordered : first ≤ last
  · rw [Nat.max_eq_left ordered]
  · rw [Nat.max_eq_right (by omega)]
    congr 1
    simp only [List.drop_take]
    rw [Nat.sub_self, Nat.sub_eq_zero_of_le (by omega)]

namespace Segment

variable (tolerant : Bool) (items : List Value)

theorem resolve_slice (start stop : Option Int) (step : { step : Nat // 0 < step }) :
    (child [.slice start stop step]).resolve tolerant [.array items] =
      .ok (sliceOf start stop step items) := by
  simp [resolve, firstFault?, selected, Selector.fault?, Selector.parts, Selector.name?]

theorem resolve_index_inside {i : Int} {position : Nat} {item : Value}
    (means : position? i items.length = some position) (found : items[position]? = some item) :
    (child [.index i]).resolve tolerant [.array items] = .ok [item] := by
  simp [resolve, firstFault?, selected, Selector.fault?, Selector.parts, means, found]

theorem resolve_index_outside {i : Int} (means : position? i items.length = none) :
    (child [.index i]).resolve tolerant [.array items] =
      if tolerant then .ok [] else .error (.indexOutOfBounds i items.length) := by
  cases tolerant <;>
    simp [resolve, firstFault?, selected, Selector.fault?, Selector.parts, means]

end Segment

namespace Query

/-- Slices and indices select the right positions. The elements of a slice are those at its
positions, in order, and a bound parts an array in two. An index selects the position that it
counts from either end, and is out of bounds where there is none. All of this holds for every
integer that a query can contain. Computed in words, where a count may be too large, positions are
the same, and a slice goes through a range inside the array. -/
theorem positions_selected :
    (∀ selector, Fits selector ↔ ∃ text query segment, compile text = .ok query ∧
      segment ∈ query.segments ∧ selector ∈ selectorsOf segment) ∧
    ∀ (items : List Value) (tolerant : Bool),
      let resolve := fun selector => (Segment.child [selector]).resolve tolerant [.array items]
      (∀ start stop step, ∃ positions found, resolve (.slice start stop step) = .ok found ∧
        List.Forall₂ (fun position item => items[position]? = some item) positions found ∧
        positions.Pairwise (· < ·) ∧
        ∀ position, position ∈ positions ↔ InSlice start stop step items.length position) ∧
      (∀ n, ∃ front back, resolve (.slice none (some n) ⟨1, Nat.one_pos⟩) = .ok front ∧
        resolve (.slice (some n) none ⟨1, Nat.one_pos⟩) = .ok back ∧ front ++ back = items) ∧
      (∀ i, let place : Int := if 0 ≤ i then i else items.length + i
        (∀ (position : Nat) item, place = position → items[position]? = some item →
          resolve (.index i) = .ok [item]) ∧
        (place < 0 ∨ items.length ≤ place → resolve (.index i) =
          if tolerant then .ok [] else .error (.indexOutOfBounds i items.length))) ∧
      ∀ largest, items.length ≤ largest →
        (∀ i, wordPosition? largest i items.length = position? i items.length) ∧
        ∀ start stop, let range := wordRange largest start stop items.length
          range.1 ≤ range.2 ∧ range.2 ≤ items.length ∧
          ∀ step, sliceOf start stop step items =
            everyNth step ((items.take range.2).drop range.1) := by
  refine ⟨fits_iff_compiled, ?_⟩
  intro items tolerant resolve
  refine ⟨?_, ?_, ?_, ?_⟩
  · intro start stop step
    exact ⟨_, _, Segment.resolve_slice tolerant items start stop step,
      sliceOf_positions start stop step items, sliceOf_increasing start stop step items.length,
      mem_sliceOf_range start stop step items.length⟩
  · intro n
    exact ⟨_, _, Segment.resolve_slice tolerant items none (some n) _,
      Segment.resolve_slice tolerant items (some n) none _, sliceOf_parts n items⟩
  · intro i place
    constructor
    · intro position item same found
      obtain ⟨inside, _⟩ := List.getElem?_eq_some_iff.mp found
      have means : position? i items.length = some position := by
        refine Selector.position?_eq_some_iff.mpr ⟨inside, ?_⟩
        by_cases positive : 0 ≤ i
        · exact Or.inl (by simpa [place, positive] using same)
        · have counted : items.length + i = position := by simpa [place, positive] using same
          exact Or.inr (by omega)
      exact Segment.resolve_index_inside tolerant items means found
    · intro outside
      apply Segment.resolve_index_outside
      rw [position?_eq_none_iff, Outside]
      by_cases positive : 0 ≤ i
      · simp only [place, positive, if_true] at outside
        omega
      · simp only [place, positive, if_false] at outside
        omega
  · intro largest fits
    refine ⟨wordPosition?_eq fits, ?_⟩
    intro start stop range
    obtain ⟨ordered, inside⟩ := wordRange_inside fits start stop
    exact ⟨ordered, inside, sliceOf_wordRange fits start stop⟩

theorem positions_selected_extremes :
    let items : List Value := [.bool true, .null, .bool false, .string "last"]
    let least : Int := -0x8000000000000000
    let resolve := fun selector => (Segment.child [selector]).resolve false [.array items]
    (∃ positions, resolve (.slice (some least) (some (-1)) ⟨2, Nat.two_pos⟩) =
        .ok [.bool true, .bool false] ∧
      List.Forall₂ (fun position item => items[position]? = some item) positions
        [.bool true, .bool false] ∧
      ∀ position, position ∈ positions ↔ InSlice (some least) (some (-1)) 2 4 position) ∧
    ((4 : Int) + -1 = 3 ∧ items[3]? = some (.string "last") ∧
      resolve (.index (-1)) = .ok [.string "last"]) ∧
    (4 + least < 0 ∧ resolve (.index least) = .error (.indexOutOfBounds least 4)) ∧
    items.length ≤ 4 ∧ wordPosition? 4 least 4 = none := by
  intro items least resolve
  obtain ⟨slices, _, indices, words⟩ := positions_selected.2 items false
  obtain ⟨positions, found, selects, places, _, exactly⟩ :=
    slices (some least) (some (-1)) ⟨2, Nat.two_pos⟩
  have known : (Segment.child [.slice (some least) (some (-1)) ⟨2, Nat.two_pos⟩]).resolve false
      [.array items] = .ok [.bool true, .bool false] := by cbv
  cases known.symm.trans selects
  have last := (indices (-1)).1 3 (.string "last") rfl rfl
  have front : 4 + least < 0 := by decide
  have fits : items.length ≤ 4 := Nat.le_refl 4
  have nowhere : position? least 4 = none := by decide
  exact ⟨⟨positions, known, places, exactly⟩, ⟨rfl, rfl, last⟩,
    ⟨front, (indices least).2 (Or.inl front)⟩, fits, ((words 4 fits).1 least).trans nowhere⟩

end Query

end Stencil
