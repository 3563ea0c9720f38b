import Stencil.Proofs.Json.Canonical

/-! A value made a document and then a value again. Only numbers that are not finite are lost, and
those are the numbers that the text of a value does not show either. -/

namespace Stencil

namespace Value

mutual

/-- What JSON can write of a value: numbers that are not finite become null, and everything else
stays, members in their order. -/
def writable : Value → Value
  | .null => .null
  | .bool b => .bool b
  | .number x => if x.isFinite then .number x else .null
  | .string s => .string s
  | .array items => .array (writableItems items)
  | .object members => .object (writableMembers members)
termination_by structural value => value

def writableItems : List Value → List Value
  | [] => []
  | value :: rest => value.writable :: writableItems rest
termination_by structural items => items

def writableMembers : List (String × Value) → List (String × Value)
  | [] => []
  | (name, value) :: rest => (name, value.writable) :: writableMembers rest
termination_by structural members => members

end

def Finite (value : Value) : Prop :=
  value.EveryNumber fun x => x.isFinite = true

theorem writable_array (items : List Value) :
    (array items).writable = array (items.map writable) := by
  apply congrArg array
  induction items with
  | nil => rfl
  | cons item rest ih => rw [writableItems, List.map_cons, ih]

theorem writable_object (members : List (String × Value)) :
    (object members).writable = object (Members.mapContents writable members) := by
  apply congrArg object
  induction members with
  | nil => rfl
  | cons member rest ih =>
      rw [writableMembers, ih]
      rfl

theorem finite_number {x : Float} : (number x).Finite ↔ x.isFinite = true := by
  constructor
  · rintro ⟨⟩
    assumption
  · exact fun finite => EveryNumber.number finite

theorem finite_array {items : List Value} : (array items).Finite ↔ ∀ item ∈ items, item.Finite := by
  constructor
  · rintro ⟨⟩
    assumption
  · exact fun each => EveryNumber.array each

theorem finite_object {members : List (String × Value)} :
    (object members).Finite ↔ ∀ member ∈ members, member.2.Finite := by
  constructor
  · rintro ⟨⟩
    assumption
  · exact fun each => EveryNumber.object each

theorem writable_finite (value : Value) : value.writable.Finite := by
  induction value using Value.induction with
  | null => exact .null
  | bool b => exact .bool b
  | number x =>
      rw [writable]
      split
      next finite => exact .number finite
      next => exact .null
  | string s => exact .string s
  | array items ih =>
      rw [writable_array, finite_array, List.forall_mem_map]
      exact ih
  | object members ih =>
      rw [writable_object, finite_object, Members.mapContents, List.forall_mem_map]
      exact ih

theorem writable_of_finite {value : Value} (finite : value.Finite) : value.writable = value := by
  induction finite with
  | null => rfl
  | bool b => rfl
  | number finite => rw [writable, if_pos finite]
  | string s => rfl
  | @array items _ ih => rw [writable_array, List.map_congr_left ih, List.map_id']
  | @object members _ ih =>
      have same : Members.mapContents writable members = Members.mapContents id members :=
        Members.mapContents_congr ih
      rw [writable_object, same, Members.mapContents_id]

theorem writable_beq {value : Value} (distinct : value.KeysDistinct) :
    value.writable.beq value = true ↔ value.Finite := by
  induction distinct with
  | null => exact iff_of_true rfl .null
  | bool b => exact iff_of_true (by simp [writable, Value.beq]) (.bool b)
  | number x =>
      rw [finite_number, writable]
      split
      next finite =>
        rw [Value.beq]
        exact iff_of_true (Number.beq_self_of_finite finite) finite
      next special => exact iff_of_false (by simp [Value.beq]) special
  | string s => exact iff_of_true (by simp [writable, Value.beq]) (.string s)
  | @array items _ ih =>
      rw [writable_array, finite_array, Value.beq, beqItems_iff, List.forall₂_map_left_iff,
        List.forall₂_same]
      exact forall₂_congr ih
  | @object members once _ ih =>
      rw [writable_object, finite_object, Value.beq, Bool.and_eq_true, beqMembers_iff,
        Members.mapContents, List.forall_mem_map, List.length_map, beq_self_eq_true]
      refine (and_iff_right rfl).trans (forall₂_congr fun member inside => ?_)
      rw [← ih member inside, Members.get?_of_mem once inside]
      simp

theorem normal_writable (value : Value) : value.writable.normal = value.normal := by
  induction value using Value.induction with
  | null => rfl
  | bool b => rfl
  | number x =>
      rw [writable]
      split
      next => rfl
      next special => rw [normal, normal, if_neg special]
  | string s => rfl
  | array items ih =>
      rw [writable_array, normal, normal, normalItems_eq, normalItems_eq, List.map_map]
      exact congrArg array (List.map_congr_left ih)
  | object members ih =>
      rw [writable_object, normal_object, normal_object, Members.mapContents_mapContents,
        Members.mapContents_congr ih]

end Value

namespace Json

/-- Of floating point numbers the finite ones are kept and no others, and they are given back. -/
structure KeepsFloats [Numbers] : Prop where
  kept (x : Float) : (Numbers.ofFloat? x).isSome = true ↔ x.isFinite = true
  back {x n} : Numbers.ofFloat? x = some n → Numbers.toFloat? n = some x

theorem keepsFloats : KeepsFloats where
  kept x := by
    change (finite? x).isSome = true ↔ _
    unfold finite?
    split <;> simp [*]
  back {x n} kept := by
    change finite? x = some n at kept
    unfold finite? at kept
    split at kept
    next => cases kept; rfl
    next => cases kept

section

variable [Numbers]

namespace Document

theorem ofValues_eq (items : List Value) : ofValues items = items.map ofValue := by
  induction items with
  | nil => rfl
  | cons item rest ih => rw [ofValues, List.map_cons, ih]

theorem ofMembers_eq (members : List (String × Value)) :
    ofMembers members = Members.mapContents ofValue members := by
  induction members with
  | nil => rfl
  | cons member rest ih =>
      rw [ofMembers, ih]
      rfl

theorem toValue_ofFloat (keeps : KeepsFloats) (x : Float) :
    (ofFloat x).toValue = (Value.number x).writable := by
  rw [ofFloat, Value.writable]
  cases kept : Numbers.ofFloat? x with
  | none =>
      have special : ¬x.isFinite = true := by
        rw [← keeps.kept, kept]
        exact Bool.false_ne_true
      rw [if_neg special]
      rfl
  | some n =>
      have finite : x.isFinite = true := by
        rw [← keeps.kept, kept]
        rfl
      rw [if_pos finite, Option.elim_some, toValue, valueBy, keeps.back kept]
      rfl

theorem toValue_ofValue (keeps : KeepsFloats) (value : Value) :
    (ofValue value).toValue = value.writable := by
  induction value using Value.induction with
  | null => rfl
  | bool b => rfl
  | number x => exact toValue_ofFloat keeps x
  | string s => rfl
  | array items ih =>
      rw [ofValue, ofValues_eq, toValue, valueBy, valuesBy_eq, List.map_map, Value.writable_array]
      exact congrArg Value.array (List.map_congr_left ih)
  | object members ih =>
      rw [ofValue, ofMembers_eq, toValue, valueBy, membersBy_eq, Members.mapContents_mapContents,
        Value.writable_object]
      exact congrArg Value.object (Members.mapContents_congr ih)

end Document

def viaDocument (value : Value) : Value :=
  (Document.ofValue value).toValue

theorem print_viaDocument (keeps : KeepsFloats) (layout : Layout) (level : Nat) (value : Value) :
    print layout level (viaDocument value) = print layout level value := by
  rw [print_eq_iff, viaDocument, Document.toValue_ofValue keeps, Value.normal_writable]

/-- Making a document of a value loses the numbers that are not finite and nothing else. It shows
unless there are none, it happens once, and printing cannot tell. -/
theorem conversion_loses_specials (keeps : KeepsFloats) (value : Value) :
    viaDocument value = value.writable ∧
    (value.KeysDistinct → ((viaDocument value == value) = true ↔ value.Finite)) ∧
    viaDocument (viaDocument value) = viaDocument value ∧
    compact (viaDocument value) = compact value ∧ pretty (viaDocument value) = pretty value := by
  have converted : ∀ value, viaDocument value = value.writable :=
    Document.toValue_ofValue keeps
  refine ⟨converted value, fun distinct => ?_, ?_, ?_, ?_⟩
  · rw [converted]
    exact Value.writable_beq distinct
  · rw [converted (viaDocument value), converted value]
    exact Value.writable_of_finite value.writable_finite
  · rw [compact, print_viaDocument keeps, compact]
  · rw [pretty, print_viaDocument keeps, pretty]

end

def specials : Value :=
  .object [("b", .array [.number (0.0 / 0.0), .number (-0.0)]), ("a", .number (1.0 / 0.0))]

theorem conversion_loses_specials_zero :
    specials.KeysDistinct ∧
    viaDocument specials = .object [("b", .array [.null, .number (-0.0)]), ("a", .null)] ∧
    (viaDocument specials == specials) = false ∧
    compact (viaDocument specials) = compact specials := by
  have nan : (0.0 / 0.0 : Float).isFinite = false := by decide +kernel
  have zero : (-0.0 : Float).isFinite = true := by decide +kernel
  have infinite : (1.0 / 0.0 : Float).isFinite = false := by decide +kernel
  have distinct : specials.KeysDistinct := by
    apply Value.KeysDistinct.object
    · simp [Members.Distinct, Members.keys]
    · simp [Value.KeysDistinct.number, Value.KeysDistinct.array]
  obtain ⟨converted, shows, _, same, _⟩ := conversion_loses_specials keepsFloats specials
  refine ⟨distinct, ?_, ?_, same⟩
  · rw [converted]
    simp [specials, Value.writable, Value.writableMembers, Value.writableItems, nan, zero, infinite]
  · rw [Bool.eq_false_iff, ne_eq, shows distinct, specials, Value.finite_object]
    simp [Value.finite_number, infinite]

end Json
end Stencil
