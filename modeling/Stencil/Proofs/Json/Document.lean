import Stencil.Json.Document
import Stencil.Proofs.Members

/-! Documents apart from their texts. Their numbers can be exchanged one by one, before or after
members with one name are merged. -/

namespace Stencil.Json.Document

variable {μ ν : Type}

/-- Induction with the items and the contents of the members below a document. -/
theorem induction {motive : Document ν → Prop} (null : motive .null) (bool : ∀ b, motive (.bool b))
    (number : ∀ n, motive (.number n)) (string : ∀ s, motive (.string s))
    (array : ∀ items, (∀ item ∈ items, motive item) → motive (.array items))
    (object : ∀ members, (∀ member ∈ members, motive member.2) → motive (.object members))
    (document : Document ν) : motive document :=
  @Document.rec ν motive (fun items => ∀ item ∈ items, motive item)
    (fun members => ∀ member ∈ members, motive member.2) (fun member => motive member.2)
    null bool number string array object
    (fun _ inside => absurd inside List.not_mem_nil)
    (fun _ _ first rest => List.forall_mem_cons.mpr ⟨first, rest⟩)
    (fun _ inside => absurd inside List.not_mem_nil)
    (fun _ _ first rest => List.forall_mem_cons.mpr ⟨first, rest⟩)
    (fun _ _ content => content) document

mutual

def depth : Document ν → Nat
  | array items => depthItems items + 1
  | object members => depthMembers members + 1
  | _ => 0
termination_by structural document => document

def depthItems : List (Document ν) → Nat
  | [] => 0
  | document :: rest => max document.depth (depthItems rest)
termination_by structural documents => documents

def depthMembers : List (String × Document ν) → Nat
  | [] => 0
  | (_, document) :: rest => max document.depth (depthMembers rest)
termination_by structural members => members

end

theorem depthItems_le (items : List (Document ν)) (levels : Nat) :
    depthItems items ≤ levels ↔ ∀ item ∈ items, item.depth ≤ levels := by
  induction items with
  | nil => simp [depthItems]
  | cons item rest ih => simp only [depthItems, Nat.max_le, ih, List.forall_mem_cons]

theorem depthMembers_le (members : List (String × Document ν)) (levels : Nat) :
    depthMembers members ≤ levels ↔ ∀ member ∈ members, member.2.depth ≤ levels := by
  induction members with
  | nil => simp [depthMembers]
  | cons member rest ih => simp only [depthMembers, Nat.max_le, ih, List.forall_mem_cons]

theorem mergedItems_eq (items : List (Document ν)) : mergedItems items = items.map merged := by
  induction items with
  | nil => rfl
  | cons item rest ih => rw [mergedItems, List.map_cons, ih]

theorem mergedMembers_eq (members : List (String × Document ν)) :
    mergedMembers members = Members.mapContents merged members := by
  induction members with
  | nil => rfl
  | cons member rest ih =>
      rw [mergedMembers, ih]
      rfl

theorem valuesBy_eq (f : ν → Value) (items : List (Document ν)) :
    valuesBy f items = items.map (valueBy f) := by
  induction items with
  | nil => rfl
  | cons item rest ih => rw [valuesBy, List.map_cons, ih]

theorem membersBy_eq (f : ν → Value) (members : List (String × Document ν)) :
    membersBy f members = Members.mapContents (valueBy f) members := by
  induction members with
  | nil => rfl
  | cons member rest ih =>
      rw [membersBy, ih]
      rfl

mutual

def map (f : μ → ν) : Document μ → Document ν
  | null => null
  | bool b => bool b
  | number n => number (f n)
  | string s => string s
  | array items => array (mapItems f items)
  | object members => object (mapMembers f members)
termination_by structural document => document

def mapItems (f : μ → ν) : List (Document μ) → List (Document ν)
  | [] => []
  | document :: rest => document.map f :: mapItems f rest
termination_by structural documents => documents

def mapMembers (f : μ → ν) : List (String × Document μ) → List (String × Document ν)
  | [] => []
  | (name, document) :: rest => (name, document.map f) :: mapMembers f rest
termination_by structural members => members

end

inductive EveryNumber (Good : ν → Prop) : Document ν → Prop
  | null : EveryNumber Good .null
  | bool b : EveryNumber Good (.bool b)
  | number {n} : Good n → EveryNumber Good (.number n)
  | string s : EveryNumber Good (.string s)
  | array {items} : (∀ item ∈ items, EveryNumber Good item) → EveryNumber Good (.array items)
  | object {members} : (∀ member ∈ members, EveryNumber Good member.2) →
      EveryNumber Good (.object members)

theorem map_array (f : μ → ν) (items : List (Document μ)) :
    (array items).map f = array (items.map (map f)) := by
  apply congrArg array
  induction items with
  | nil => rfl
  | cons item rest ih => rw [mapItems, List.map_cons, ih]

theorem map_object (f : μ → ν) (members : List (String × Document μ)) :
    (object members).map f = object (Members.mapContents (map f) members) := by
  apply congrArg object
  induction members with
  | nil => rfl
  | cons member rest ih =>
      rw [mapMembers, ih]
      rfl

theorem map_merged (f : μ → ν) (document : Document μ) :
    (document.map f).merged = document.merged.map f := by
  induction document using Document.induction with
  | null => rfl
  | bool b => rfl
  | number n => rfl
  | string s => rfl
  | array items ih =>
      rw [map_array, merged, merged, map_array, mergedItems_eq, mergedItems_eq, List.map_map,
        List.map_map]
      exact congrArg array (List.map_congr_left ih)
  | object members ih =>
      have same : Members.mapContents (fun document => (map f document).merged) members =
          Members.mapContents (fun document => map f document.merged) members :=
        Members.mapContents_congr ih
      rw [map_object, merged, merged, map_object, mergedMembers_eq, mergedMembers_eq,
        ← Members.ofList_mapContents, Members.mapContents_mapContents,
        Members.mapContents_mapContents, same]

mutual

theorem depth_map (f : μ → ν) : (document : Document μ) → (document.map f).depth = document.depth
  | null => rfl
  | bool _ => rfl
  | number _ => rfl
  | string _ => rfl
  | array items => congrArg (· + 1) (depthItems_map f items)
  | object members => congrArg (· + 1) (depthMembers_map f members)
termination_by structural document => document

theorem depthItems_map (f : μ → ν) : (items : List (Document μ)) →
    depthItems (mapItems f items) = depthItems items
  | [] => rfl
  | item :: rest => by
    rw [mapItems, depthItems, depthItems, depth_map f item, depthItems_map f rest]
termination_by structural items => items

theorem depthMembers_map (f : μ → ν) : (members : List (String × Document μ)) →
    depthMembers (mapMembers f members) = depthMembers members
  | [] => rfl
  | (_, document) :: rest => by
    rw [mapMembers, depthMembers, depthMembers, depth_map f document, depthMembers_map f rest]
termination_by structural members => members

end

theorem valueBy_map (f : μ → ν) (g : ν → Value) (document : Document μ) :
    (document.map f).valueBy g = document.valueBy fun n => g (f n) := by
  induction document using Document.induction with
  | null => rfl
  | bool b => rfl
  | number n => rfl
  | string s => rfl
  | array items ih =>
      rw [map_array, valueBy, valueBy, valuesBy_eq, valuesBy_eq, List.map_map]
      exact congrArg Value.array (List.map_congr_left ih)
  | object members ih =>
      rw [map_object, valueBy, valueBy, membersBy_eq, membersBy_eq, Members.mapContents_mapContents,
        Members.mapContents_congr ih]

theorem valueBy_congr {f g : ν → Value} {document : Document ν}
    (same : document.EveryNumber fun n => f n = g n) : document.valueBy f = document.valueBy g := by
  induction same with
  | null => rfl
  | bool b => rfl
  | number same => exact same
  | string s => rfl
  | array _ ih =>
      rw [valueBy, valueBy, valuesBy_eq, valuesBy_eq]
      exact congrArg Value.array (List.map_congr_left ih)
  | object _ ih =>
      rw [valueBy, valueBy, membersBy_eq, membersBy_eq, Members.mapContents_congr ih]

namespace EveryNumber

variable {Good Fair : ν → Prop} {document : Document ν}

theorem mono (every : document.EveryNumber Good) (fewer : ∀ n, Good n → Fair n) :
    document.EveryNumber Fair := by
  induction every with
  | null => exact .null
  | bool b => exact .bool b
  | number good => exact .number (fewer _ good)
  | string s => exact .string s
  | array _ ih => exact .array ih
  | object _ ih => exact .object ih

theorem and (every : document.EveryNumber Good) (too : document.EveryNumber Fair) :
    document.EveryNumber fun n => Good n ∧ Fair n := by
  induction every with
  | null => exact .null
  | bool b => exact .bool b
  | number good =>
      cases too with
      | number fair => exact .number ⟨good, fair⟩
  | string s => exact .string s
  | array _ ih =>
      cases too with
      | array each => exact .array fun item inside => ih item inside (each item inside)
  | object _ ih =>
      cases too with
      | object each => exact .object fun member inside => ih member inside (each member inside)

theorem of_map {f : μ → ν} {document : Document μ} (every : (document.map f).EveryNumber Good) :
    document.EveryNumber fun n => Good (f n) := by
  induction document using Document.induction with
  | null => exact .null
  | bool b => exact .bool b
  | number n =>
      cases every with
      | number good => exact .number good
  | string s => exact .string s
  | array items ih =>
      rw [map_array] at every
      cases every with
      | array each =>
          exact .array fun item inside => ih item inside (each _ (List.mem_map_of_mem inside))
  | object members ih =>
      rw [map_object] at every
      cases every with
      | object each =>
          exact .object fun member inside => ih member inside (each _ (List.mem_map_of_mem inside))

theorem merged (every : document.EveryNumber Good) : document.merged.EveryNumber Good := by
  induction every with
  | null => exact .null
  | bool b => exact .bool b
  | number good => exact .number good
  | string s => exact .string s
  | array _ ih =>
      rw [Document.merged, mergedItems_eq]
      exact .array (List.forall_mem_map.mpr ih)
  | @object members _ ih =>
      have each : ∀ entry ∈ Members.mapContents Document.merged members,
          entry.2.EveryNumber Good := List.forall_mem_map.mpr ih
      rw [Document.merged, mergedMembers_eq]
      exact .object fun entry inside => each entry (Members.mem_ofList inside)

end EveryNumber

end Stencil.Json.Document
