import Stencil.Proofs.Json.Printing
import Stencil.Proofs.Number.Bits

/-! The text of a value is a canonical form of it: where two values are equal they print alike, and
nowhere else. -/

namespace Stencil

namespace Value

theorem beqItems_iff {items others : List Value} : beqItems items others = true ↔
    List.Forall₂ (fun item other => item.beq other = true) items others := by
  induction items generalizing others with
  | nil => cases others <;> simp [beqItems]
  | cons item rest ih => cases others <;> simp [beqItems, ih]

theorem beqMembers_iff {members others : List (String × Value)} :
    beqMembers members others = true ↔ ∀ member ∈ members, ∃ other,
      Members.get? member.1 others = some other ∧ member.2.beq other = true := by
  induction members with
  | nil => simp [beqMembers]
  | cons member rest ih =>
      rw [beqMembers, Bool.and_eq_true, ih, List.forall_mem_cons]
      cases Members.get? member.1 others <;> simp

theorem normal_object (members : List (String × Value)) :
    normal (.object members) = .object (Json.byName (Members.mapContents normal members)) := by
  rw [normal, normalMembers_eq]
  rfl

end Value

namespace Json

section

variable {α : Type}

theorem byName_sorted (entries : List (String × α)) :
    (byName entries).Pairwise fun a b => decide (a.1 ≤ b.1) = true := by
  apply List.pairwise_mergeSort
  · intro a b c first second
    simp only [decide_eq_true_eq] at *
    exact le_trans first second
  · intro a b
    simp only [Bool.or_eq_true, decide_eq_true_eq]
    exact le_total a.1 b.1

theorem byName_byName (entries : List (String × α)) : byName (byName entries) = byName entries :=
  List.mergeSort_of_pairwise (byName_sorted entries)

theorem byName_ascending {entries : List (String × α)} (distinct : Members.Distinct entries) :
    (Members.keys (byName entries)).Pairwise (· < ·) := by
  have sorted : (Members.keys (byName entries)).Pairwise (· ≤ ·) :=
    List.pairwise_map.mpr ((byName_sorted entries).imp of_decide_eq_true)
  have once : (Members.keys (byName entries)).Pairwise (· ≠ ·) := distinct_byName distinct
  exact sorted.imp₂ (fun _ _ below differs => lt_of_le_of_ne below differs) once

theorem byName_eq_iff {entries others : List (String × α)} (distinct : Members.Distinct entries) :
    byName entries = byName others ↔ entries.Perm others := by
  have perm : (byName entries).Perm entries := List.mergeSort_perm _ _
  have permToo : (byName others).Perm others := List.mergeSort_perm _ _
  constructor
  · intro same
    rw [same] at perm
    exact perm.symm.trans permToo
  · intro reordered
    apply List.Perm.eq_of_pairwise _ (byName_sorted entries) (byName_sorted others)
      (perm.trans (reordered.trans permToo.symm))
    intro a b left right below above
    have names : a.1 = b.1 := le_antisymm (of_decide_eq_true below) (of_decide_eq_true above)
    have found := Members.get?_of_mem distinct (mem_byName.mp left)
    have foundToo := Members.get?_of_mem distinct (reordered.mem_iff.mpr (mem_byName.mp right))
    rw [names, foundToo] at found
    exact Prod.ext names (Option.some.inj found).symm

end

theorem forall₂_iff_of_mem {α β : Type} {R S : α → β → Prop} {items : List α} {others : List β}
    (each : ∀ item ∈ items, ∀ other ∈ others, R item other ↔ S item other) :
    List.Forall₂ R items others ↔ List.Forall₂ S items others := by
  induction items generalizing others with
  | nil => simp
  | cons item rest ih =>
      cases others with
      | nil => simp
      | cons other others =>
          have first := each item List.mem_cons_self other List.mem_cons_self
          have later := ih fun item inside other within =>
            each item (List.mem_cons_of_mem _ inside) other (List.mem_cons_of_mem _ within)
          rw [List.forall₂_cons, List.forall₂_cons, first, later]

theorem normal_array_iff {items others : List Value}
    (each : ∀ item ∈ items, ∀ other ∈ others, item.normal = other.normal ↔
      item.beq other = true) :
    (Value.array items).normal = (Value.array others).normal ↔
      (Value.array items).beq (.array others) = true := by
  rw [Value.beq, Value.beqItems_iff, ← forall₂_iff_of_mem each, Value.normal, Value.normal,
    Value.array.injEq, Value.normalItems_eq, Value.normalItems_eq, ← List.forall₂_eq_eq_eq,
    List.forall₂_map_left_iff, List.forall₂_map_right_iff]

theorem normal_object_iff {members others : List (String × Value)}
    (distinct : Members.Distinct members) (distinctToo : Members.Distinct others)
    (each : ∀ member ∈ members, ∀ other ∈ others, member.2.normal = other.2.normal ↔
      member.2.beq other.2 = true) :
    (Value.object members).normal = (Value.object others).normal ↔
      (Value.object members).beq (.object others) = true := by
  have once := Members.distinct_mapContents Value.normal distinct
  have onceToo := Members.distinct_mapContents Value.normal distinctToo
  have entries : (∀ entry ∈ Members.mapContents Value.normal members,
        Members.get? entry.1 (Members.mapContents Value.normal others) = some entry.2) ↔
      ∀ member ∈ members, ∃ other, Members.get? member.1 others = some other ∧
        member.2.beq other = true := by
    rw [Members.mapContents, List.forall_mem_map]
    apply forall₂_congr
    intro member inside
    rw [Members.get?_mapContents, Option.map_eq_some_iff]
    apply exists_congr
    intro other
    apply and_congr_right
    intro found
    rw [eq_comm]
    exact each member inside _ (Members.mem_of_get? found)
  rw [Value.normal_object, Value.normal_object, Value.object.injEq, byName_eq_iff once,
    Members.perm_iff once onceToo, entries, Value.beq, Bool.and_eq_true, beq_iff_eq,
    Value.beqMembers_iff, Members.mapContents, Members.mapContents, List.length_map,
    List.length_map]

theorem typeName_normal {value : Value} (plain : value.EveryNumber Number.Plain) :
    value.normal.typeName = value.typeName := by
  cases plain with
  | number good => rw [Value.normal, if_pos good.1]
  | _ => rfl

theorem typeName_of_beq {a b : Value} (same : a.beq b = true) : a.typeName = b.typeName := by
  cases a <;> cases b <;> first | rfl | simp [Value.beq] at same

theorem normal_eq_iff_of_types {a b : Value} (plain : a.EveryNumber Number.Plain)
    (plainToo : b.EveryNumber Number.Plain) (differ : a.typeName ≠ b.typeName) :
    a.normal = b.normal ↔ a.beq b = true := by
  apply iff_of_false
  · intro same
    rw [← typeName_normal plain, ← typeName_normal plainToo, same] at differ
    exact differ rfl
  · intro same
    exact differ (typeName_of_beq same)

theorem normal_eq_iff {a b : Value} (distinct : a.KeysDistinct) (distinctToo : b.KeysDistinct)
    (plain : a.EveryNumber Number.Plain) (plainToo : b.EveryNumber Number.Plain) :
    a.normal = b.normal ↔ a.beq b = true := by
  induction distinct generalizing b with
  | null =>
      cases b with
      | null => simp [Value.beq]
      | _ => exact normal_eq_iff_of_types plain plainToo (by simp [Value.typeName])
  | bool x =>
      cases b with
      | bool y => simp [Value.normal, Value.beq]
      | _ => exact normal_eq_iff_of_types plain plainToo (by simp [Value.typeName])
  | number x =>
      cases b with
      | number y =>
          obtain _ | _ | good := plain
          obtain _ | _ | goodToo := plainToo
          rw [Value.normal, Value.normal, if_pos good.1, if_pos goodToo.1, Value.beq,
            Value.number.injEq, Number.beq_iff_eq_of_plain good goodToo]
      | _ => exact normal_eq_iff_of_types plain plainToo (by simp [Value.typeName])
  | string s =>
      cases b with
      | string t => simp [Value.normal, Value.beq]
      | _ => exact normal_eq_iff_of_types plain plainToo (by simp [Value.typeName])
  | @array items _ ih =>
      cases b with
      | array others =>
          cases distinctToo with | array once =>
          cases plain with | array good =>
          cases plainToo with | array goodToo =>
          apply normal_array_iff
          intro item inside other within
          exact ih item inside (once other within) (good item inside) (goodToo other within)
      | _ => exact normal_eq_iff_of_types plain plainToo (by simp [Value.typeName])
  | @object members once _ ih =>
      cases b with
      | object others =>
          cases distinctToo with | object onceToo eachToo =>
          cases plain with | object good =>
          cases plainToo with | object goodToo =>
          apply normal_object_iff once onceToo
          intro member inside other within
          exact ih member inside (eachToo other within) (good member inside) (goodToo other within)
      | _ => exact normal_eq_iff_of_types plain plainToo (by simp [Value.typeName])

theorem print_normal (layout : Layout) (level : Nat) (value : Value) :
    print layout level value.normal = print layout level value := by
  induction value using Value.induction generalizing level with
  | null => rfl
  | bool b => rfl
  | number x =>
      rw [Value.normal]
      split
      next => rfl
      next special => rw [print, print, numeral, if_neg special]
  | string s => rfl
  | array items ih =>
      rw [Value.normal, Value.normalItems_eq, print, print, printItems_eq, printItems_eq,
        List.map_map]
      exact congrArg _ (List.map_congr_left fun item inside => ih item inside (level + 1))
  | object members ih =>
      have same : Members.mapContents (fun value => print layout (level + 1) value.normal) members =
          Members.mapContents (print layout (level + 1)) members :=
        Members.mapContents_congr fun member inside => ih member inside (level + 1)
      rw [Value.normal_object, print, print, printMembers_eq, printMembers_eq,
        ← byName_mapContents, Members.mapContents_mapContents, byName_byName, same]

/-- No text says less of a value than its normal form, which is what both readers see. -/
theorem print_eq_iff (layout : Layout) (level : Nat) (a b : Value) :
    print layout level a = print layout level b ↔ a.normal = b.normal := by
  constructor
  · intro same
    have shown : ∀ value : Value, Written literal? (print layout level value) (.printed value) :=
      fun value => print_written layout level (Value.everyNumber_of_forall numeral_written value)
    have written := DocumentText.one blank_nil (shown a) blank_nil
    have writtenToo := DocumentText.one blank_nil (shown b) blank_nil
    rw [← same] at writtenToo
    rw [← Document.printed_valueBy, documentText_unique written writtenToo,
      Document.printed_valueBy]
  · intro same
    rw [← print_normal, same, print_normal]

namespace Document

inductive Ascending : Document Float → Prop
  | null : Ascending .null
  | bool b : Ascending (.bool b)
  | number x : Ascending (.number x)
  | string s : Ascending (.string s)
  | array {items} : (∀ item ∈ items, Ascending item) → Ascending (.array items)
  | object {members} : (Members.keys members).Pairwise (· < ·) →
      (∀ member ∈ members, Ascending member.2) → Ascending (.object members)

theorem printed_ascending {value : Value} (distinct : value.KeysDistinct) :
    (printed value).Ascending := by
  unfold printed
  induction distinct with
  | null => exact .null
  | bool b => exact .bool b
  | number x =>
      rw [printedBy]
      split
      next => exact .number x
      next => exact .null
  | string s => exact .string s
  | array _ ih =>
      rw [printedBy, printedItems_eq]
      apply Ascending.array
      intro document inside
      obtain ⟨item, member, rfl⟩ := List.mem_map.mp inside
      exact ih item member
  | object once _ ih =>
      rw [printedBy_object]
      apply Ascending.object
      · rw [Members.keys_mapContents]
        exact byName_ascending once
      · intro entry inside
        obtain ⟨member, sorted, rfl⟩ := List.mem_map.mp inside
        exact ih member (mem_byName.mp sorted)

end Document

theorem text_ascends {value : Value} (distinct : value.KeysDistinct) {text : String}
    (printed : text ∈ [compact value, pretty value]) :
    ∃ document, DocumentText literal? text.toList document ∧ document.Ascending ∧
      ∀ other, DocumentText literal? text.toList other → other = document := by
  have written := printed_written printed
  refine ⟨Document.printed value, written, Document.printed_ascending distinct, ?_⟩
  intro other writtenToo
  exact documentText_unique writtenToo written

/-- Values with plain numbers are equal where their texts are, on one line or indented, and their
texts list the members of every object by name. -/
theorem texts_canonical (a b : Value) (distinct : a.KeysDistinct) (distinctToo : b.KeysDistinct)
    (plain : a.EveryNumber Number.Plain) (plainToo : b.EveryNumber Number.Plain) :
    (compact a = compact b ↔ (a == b) = true) ∧ (pretty a = pretty b ↔ (a == b) = true) ∧
    ∀ value ∈ [a, b], ∀ text ∈ [compact value, pretty value],
      ∃ document, DocumentText literal? text.toList document ∧ document.Ascending ∧
        ∀ other, DocumentText literal? text.toList other → other = document := by
  have layouts : ∀ layout, String.ofList (print layout 0 a) = String.ofList (print layout 0 b) ↔
      (a == b) = true := by
    intro layout
    rw [String.ofList_inj, print_eq_iff]
    exact normal_eq_iff distinct distinctToo plain plainToo
  refine ⟨layouts .compact, layouts .pretty, ?_⟩
  have once : ∀ value ∈ [a, b], value.KeysDistinct := by
    simp [distinct, distinctToo]
  intro value either text printed
  exact text_ascends (once value either) printed

def reordered : Value × Value :=
  (.object [("b", .object [("d", .null), ("c", .number 1.5)]), ("a", .string "x")],
   .object [("a", .string "x"), ("b", .object [("c", .number 1.5), ("d", .null)])])

theorem texts_canonical_reordered :
    (reordered.1.KeysDistinct ∧ reordered.2.KeysDistinct) ∧
    (reordered.1.EveryNumber Number.Plain ∧ reordered.2.EveryNumber Number.Plain) ∧
    compact reordered.1 = compact reordered.2 ∧ pretty reordered.1 = pretty reordered.2 := by
  have good : Number.Plain 1.5 := ⟨by decide +kernel, by decide +kernel⟩
  have inner : (Value.object [("d", .null), ("c", .number 1.5)]).KeysDistinct ∧
      (Value.object [("c", .number 1.5), ("d", .null)]).KeysDistinct := by
    constructor <;> apply Value.KeysDistinct.object <;>
      simp [Members.Distinct, Members.keys, Value.KeysDistinct.null, Value.KeysDistinct.number]
  have distinct : reordered.1.KeysDistinct ∧ reordered.2.KeysDistinct := by
    constructor <;> apply Value.KeysDistinct.object <;>
      simp [Members.Distinct, Members.keys, inner, Value.KeysDistinct.string]
  have innerPlain : (Value.object [("d", .null), ("c", .number 1.5)]).EveryNumber Number.Plain ∧
      (Value.object [("c", .number 1.5), ("d", .null)]).EveryNumber Number.Plain := by
    constructor <;> apply Value.EveryNumber.object <;>
      simp [Value.EveryNumber.null, Value.EveryNumber.number good]
  have plain : reordered.1.EveryNumber Number.Plain ∧ reordered.2.EveryNumber Number.Plain := by
    constructor <;> apply Value.EveryNumber.object <;>
      simp [innerPlain, Value.EveryNumber.string]
  obtain ⟨one, lines, _⟩ :=
    texts_canonical _ _ distinct.1 distinct.2 plain.1 plain.2
  have equal : (reordered.1 == reordered.2) = true := by decide +kernel
  exact ⟨distinct, plain, one.mpr equal, lines.mpr equal⟩

end Json
end Stencil
