import Stencil.Json.Printer
import Stencil.Proofs.Json.Template

/-! What the text of a value shows of it. Numbers that are not finite and the order of members are
lost; a document of the same depth has the rest. -/

namespace Stencil

namespace Value

/-- Induction with the items and the contents of the members below a value. -/
theorem induction {motive : Value → Prop} (null : motive .null) (bool : ∀ b, motive (.bool b))
    (number : ∀ x, motive (.number x)) (string : ∀ s, motive (.string s))
    (array : ∀ items, (∀ item ∈ items, motive item) → motive (.array items))
    (object : ∀ members, (∀ member ∈ members, motive member.2) → motive (.object members))
    (value : Value) : motive value :=
  @Value.rec motive (fun items => ∀ item ∈ items, motive item)
    (fun members => ∀ member ∈ members, motive member.2) (fun member => motive member.2)
    null bool number string array object
    (fun _ inside => absurd inside List.not_mem_nil)
    (fun _ _ first rest => List.forall_mem_cons.mpr ⟨first, rest⟩)
    (fun _ inside => absurd inside List.not_mem_nil)
    (fun _ _ first rest => List.forall_mem_cons.mpr ⟨first, rest⟩)
    (fun _ _ content => content) value

inductive EveryNumber (Good : Float → Prop) : Value → Prop
  | null : EveryNumber Good .null
  | bool b : EveryNumber Good (.bool b)
  | number {x} : Good x → EveryNumber Good (.number x)
  | string s : EveryNumber Good (.string s)
  | array {items} : (∀ item ∈ items, EveryNumber Good item) → EveryNumber Good (.array items)
  | object {members} : (∀ member ∈ members, EveryNumber Good member.2) →
      EveryNumber Good (.object members)

theorem EveryNumber.mono {Good Fair : Float → Prop} {value : Value}
    (every : value.EveryNumber Good) (fewer : ∀ x, Good x → Fair x) : value.EveryNumber Fair := by
  induction every with
  | null => exact .null
  | bool b => exact .bool b
  | number good => exact .number (fewer _ good)
  | string s => exact .string s
  | array _ ih => exact .array ih
  | object _ ih => exact .object ih

theorem everyNumber_of_forall {Good : Float → Prop} (good : ∀ x, Good x) (value : Value) :
    value.EveryNumber Good := by
  induction value using Value.induction with
  | null => exact .null
  | bool b => exact .bool b
  | number x => exact .number (good x)
  | string s => exact .string s
  | array items ih => exact .array ih
  | object members ih => exact .object ih

inductive KeysDistinct : Value → Prop
  | null : KeysDistinct .null
  | bool b : KeysDistinct (.bool b)
  | number x : KeysDistinct (.number x)
  | string s : KeysDistinct (.string s)
  | array {items} : (∀ item ∈ items, KeysDistinct item) → KeysDistinct (.array items)
  | object {members} : Members.Distinct members → (∀ member ∈ members, KeysDistinct member.2) →
      KeysDistinct (.object members)

mutual

/-- Numbers that are not finite become null, and the members of every object stand in the order of
their names. -/
def normal : Value → Value
  | .null => .null
  | .bool b => .bool b
  | .number x => if x.isFinite then .number x else .null
  | .string s => .string s
  | .array items => .array (normalItems items)
  | .object members =>
    .object ((normalMembers members).mergeSort fun a b => decide (a.1 ≤ b.1))
termination_by structural value => value

def normalItems : List Value → List Value
  | [] => []
  | value :: rest => value.normal :: normalItems rest
termination_by structural items => items

def normalMembers : List (String × Value) → List (String × Value)
  | [] => []
  | (name, value) :: rest => (name, value.normal) :: normalMembers rest
termination_by structural members => members

end

theorem normalItems_eq (items : List Value) : normalItems items = items.map normal := by
  induction items with
  | nil => rfl
  | cons item rest ih => rw [normalItems, List.map_cons, ih]

theorem normalMembers_eq (members : List (String × Value)) :
    normalMembers members = Members.mapContents normal members := by
  induction members with
  | nil => rfl
  | cons member rest ih =>
      rw [normalMembers, ih]
      rfl

theorem depth_le_depthItems {items : List Value} {item : Value} (inside : item ∈ items) :
    item.depth ≤ depthItems items := by
  induction items with
  | nil => cases inside
  | cons first rest ih =>
      rw [depthItems]
      rcases List.mem_cons.mp inside with rfl | later
      · exact Nat.le_max_left _ _
      · exact Nat.le_trans (ih later) (Nat.le_max_right _ _)

theorem depth_le_depthMembers {members : List (String × Value)} {member : String × Value}
    (inside : member ∈ members) : member.2.depth ≤ depthMembers members := by
  induction members with
  | nil => cases inside
  | cons first rest ih =>
      rw [depthMembers]
      rcases List.mem_cons.mp inside with rfl | later
      · exact Nat.le_max_left _ _
      · exact Nat.le_trans (ih later) (Nat.le_max_right _ _)

end Value

namespace Json

section

variable {α β : Type}

theorem byName_mapContents (f : α → β) (entries : List (String × α)) :
    byName (Members.mapContents f entries) = Members.mapContents f (byName entries) :=
  (List.map_mergeSort (f := fun entry : String × α => (entry.1, f entry.2))
    fun _ _ _ _ => rfl).symm

theorem mem_byName {entry : String × α} {entries : List (String × α)} :
    entry ∈ byName entries ↔ entry ∈ entries :=
  List.mem_mergeSort

theorem distinct_byName {entries : List (String × α)} (distinct : Members.Distinct entries) :
    Members.Distinct (byName entries) :=
  ((List.mergeSort_perm entries _).map Prod.fst).nodup_iff.mpr distinct

end

namespace Document

variable {ν : Type} {f : Float → Option ν}

mutual

/-- The document that printing a value writes, where numbers without a form become null. -/
def printedBy (f : Float → Option ν) : Value → Document ν
  | .null => null
  | .bool b => bool b
  | .number x => (f x).elim null number
  | .string s => string s
  | .array items => array (printedItems f items)
  | .object members => object (byName (printedMembers f members))
termination_by structural value => value

def printedItems (f : Float → Option ν) : List Value → List (Document ν)
  | [] => []
  | value :: rest => printedBy f value :: printedItems f rest
termination_by structural items => items

def printedMembers (f : Float → Option ν) : List (String × Value) → List (String × Document ν)
  | [] => []
  | (name, value) :: rest => (name, printedBy f value) :: printedMembers f rest
termination_by structural members => members

end

def printed : Value → Document Float :=
  printedBy fun x => if x.isFinite then some x else none

theorem printedItems_eq (items : List Value) :
    printedItems f items = items.map (printedBy f) := by
  induction items with
  | nil => rfl
  | cons item rest ih => rw [printedItems, List.map_cons, ih]

theorem printedMembers_eq (members : List (String × Value)) :
    printedMembers f members = Members.mapContents (printedBy f) members := by
  induction members with
  | nil => rfl
  | cons member rest ih =>
      rw [printedMembers, ih]
      rfl

theorem printedBy_object (members : List (String × Value)) :
    printedBy f (.object members) =
      object (Members.mapContents (printedBy f) (byName members)) := by
  rw [printedBy, printedMembers_eq, byName_mapContents]

theorem printedBy_depth (value : Value) : (printedBy f value).depth ≤ value.depth := by
  induction value using Value.induction with
  | null => exact Nat.le_refl _
  | bool b => exact Nat.le_refl _
  | number x =>
      rw [printedBy]
      cases f x <;> exact Nat.le_refl _
  | string s => exact Nat.le_refl _
  | array items ih =>
      rw [printedBy, printedItems_eq, depth, Value.depth]
      apply Nat.succ_le_succ
      apply (depthItems_le _ _).mpr
      intro document inside
      obtain ⟨item, member, rfl⟩ := List.mem_map.mp inside
      exact Nat.le_trans (ih item member) (Value.depth_le_depthItems member)
  | object members ih =>
      rw [printedBy_object, depth, Value.depth]
      apply Nat.succ_le_succ
      apply (depthMembers_le _ _).mpr
      intro entry inside
      obtain ⟨member, sorted, rfl⟩ := List.mem_map.mp inside
      have member := mem_byName.mp sorted
      exact Nat.le_trans (ih _ member) (Value.depth_le_depthMembers member)

theorem printedBy_valueBy {g : ν → Value} {value : Value}
    (each : value.EveryNumber fun x =>
      ((f x).elim null number).valueBy g = (Value.number x).normal) :
    (printedBy f value).valueBy g = value.normal := by
  induction each with
  | null => rfl
  | bool b => rfl
  | number same => exact same
  | string s => rfl
  | array _ ih =>
      rw [printedBy, printedItems_eq, valueBy, valuesBy_eq, Value.normal, Value.normalItems_eq,
        List.map_map]
      exact congrArg _ (List.map_congr_left ih)
  | @object members _ ih =>
      have same : Members.mapContents (fun value => (printedBy f value).valueBy g) members =
          Members.mapContents Value.normal members := Members.mapContents_congr ih
      rw [printedBy, printedMembers_eq, valueBy, membersBy_eq, ← byName_mapContents,
        Members.mapContents_mapContents, same, ← Value.normalMembers_eq]
      rfl

theorem printed_valueBy (value : Value) : (printed value).valueBy .number = value.normal := by
  refine printedBy_valueBy (Value.everyNumber_of_forall (fun x => ?_) value)
  rw [Value.normal]
  split <;> rfl

theorem merged_printedBy {value : Value} (distinct : value.KeysDistinct) :
    (printedBy f value).merged = printedBy f value := by
  induction distinct with
  | null => rfl
  | bool b => rfl
  | number x =>
      rw [printedBy]
      cases f x <;> rfl
  | string s => rfl
  | array _ ih =>
      rw [printedBy, printedItems_eq, merged, mergedItems_eq, List.map_map]
      exact congrArg _ (List.map_congr_left ih)
  | @object members distinct _ ih =>
      have same : Members.mapContents (fun value => (printedBy f value).merged) (byName members) =
          Members.mapContents (printedBy f) (byName members) :=
        Members.mapContents_congr fun member sorted => ih member (mem_byName.mp sorted)
      have once := Members.distinct_mapContents (printedBy f) (distinct_byName distinct)
      rw [printedBy_object, merged, mergedMembers_eq, Members.mapContents_mapContents, same,
        Members.ofList_distinct once]

end Document

end Json

end Stencil
