import Stencil.Proofs.Json.Normal
import Stencil.Proofs.Query.Addressing

/-! The places in a value, one for everything inside it. They are listed as the value is walked:
a container before its contents, and its contents in order. -/

namespace Stencil

namespace Value

def entries : Value → List (Step × Value)
  | array items => items.zipIdx.map fun item => (.item item.2, item.1)
  | object members => members.map fun member => (.member member.1, member.2)
  | _ => []

def steps (root : Value) : List Step :=
  root.entries.map Prod.fst

theorem mem_entries {root part : Value} {step : Step} (distinct : root.KeysDistinct) :
    (step, part) ∈ root.entries ↔ root.part? step = some part := by
  cases distinct with
  | null => cases step <;> simp [entries, part?]
  | bool b => cases step <;> simp [entries, part?]
  | number x => cases step <;> simp [entries, part?]
  | string s => cases step <;> simp [entries, part?]
  | array _ =>
      cases step with
      | member name => simp [entries, part?]
      | item index => simp [entries, part?, List.mk_mem_zipIdx_iff_getElem?]
  | @object members distinct _ =>
      cases step with
      | item index => simp [entries, part?]
      | member name =>
          have named : (Step.member name, part) ∈ (object members).entries ↔
              (name, part) ∈ members := by simp [entries]
          rw [named]
          exact ⟨Members.get?_of_mem distinct, Members.mem_of_get?⟩

theorem KeysDistinct.entry {root : Value} (distinct : root.KeysDistinct) {entry : Step × Value}
    (member : entry ∈ root.entries) : entry.2.KeysDistinct := by
  cases distinct with
  | null => cases member
  | bool b => cases member
  | number x => cases member
  | string s => cases member
  | array each =>
      obtain ⟨item, inside, rfl⟩ := List.mem_map.mp member
      exact each _ (List.fst_mem_of_mem_zipIdx inside)
  | object _ each =>
      obtain ⟨named, inside, rfl⟩ := List.mem_map.mp member
      exact each named inside

theorem nodup_steps {root : Value} (distinct : root.KeysDistinct) : root.steps.Nodup := by
  cases distinct with
  | null => exact List.nodup_nil
  | bool b => exact List.nodup_nil
  | number x => exact List.nodup_nil
  | string s => exact List.nodup_nil
  | @array items _ =>
      have counted : (array items).steps = (List.range' 0 items.length).map Step.item := by
        rw [← List.zipIdx_map_snd 0 items, List.map_map, steps, entries, List.map_map]
        rfl
      rw [counted]
      exact List.Nodup.map (fun _ _ same => Step.item.inj same) List.nodup_range'
  | @object members distinct _ =>
      have named : (object members).steps = (Members.keys members).map Step.member := by
        rw [Members.keys, List.map_map, steps, entries, List.map_map]
        rfl
      rw [named]
      exact List.Nodup.map (fun _ _ same => Step.member.inj same) distinct

theorem depth_entry {root : Value} {entry : Step × Value} (member : entry ∈ root.entries) :
    entry.2.depth < root.depth := by
  cases root with
  | array items =>
      obtain ⟨item, inside, rfl⟩ := List.mem_map.mp member
      exact Nat.lt_succ_of_le (depth_le_depthItems (List.fst_mem_of_mem_zipIdx inside))
  | object members =>
      obtain ⟨named, inside, rfl⟩ := List.mem_map.mp member
      exact Nat.lt_succ_of_le (depth_le_depthMembers inside)
  | _ => cases member

/-- Everything inside a value with its place, containers before their contents. -/
def located (root : Value) : List (List Step × Value) :=
  ([], root) :: root.entries.attach.flatMap fun entry =>
    (located entry.1.2).map fun found => (entry.1.1 :: found.1, found.2)
termination_by root.depth
decreasing_by exact depth_entry entry.2

theorem located_eq (root : Value) :
    root.located = ([], root) :: root.entries.flatMap fun entry =>
      entry.2.located.map fun found => (entry.1 :: found.1, found.2) := by
  have whole := List.attach_map_subtype_val root.entries
  rw [located]
  conv_rhs => rw [← whole, List.flatMap_map]

theorem entries_induction {motive : Value → Prop}
    (step : ∀ root, (∀ entry ∈ root.entries, motive entry.2) → motive root) (root : Value) :
    motive root := by
  induction root using located.induct with
  | case1 root ih => exact step root fun entry member => ih ⟨entry, member⟩

theorem itemDescendants_eq (items : List Value) :
    itemDescendants items = items.flatMap descendants := by
  induction items with
  | nil => rfl
  | cons item rest ih => rw [itemDescendants, List.flatMap_cons, ih]

theorem memberDescendants_eq (members : List (String × Value)) :
    memberDescendants members = members.flatMap fun member => member.2.descendants := by
  induction members with
  | nil => rfl
  | cons member rest ih => rw [memberDescendants, List.flatMap_cons, ih]

theorem descendants_eq (root : Value) :
    root.descendants = root :: root.entries.flatMap fun entry => entry.2.descendants := by
  cases root with
  | array items =>
      have whole : (items.zipIdx.map Prod.fst).flatMap descendants = items.flatMap descendants := by
        rw [List.zipIdx_map_fst]
      rw [descendants, itemDescendants_eq, ← whole, entries, List.flatMap_map, List.flatMap_map]
  | object members =>
      rw [descendants, memberDescendants_eq, entries, List.flatMap_map]
  | _ => rfl

theorem descendants_located (root : Value) : root.descendants = root.located.map Prod.snd := by
  induction root using entries_induction with
  | step root ih =>
      rw [descendants_eq, located_eq, List.map_cons, List.map_flatMap]
      refine congrArg _ (List.flatMap_congr fun entry member => ?_)
      rw [ih entry member, List.map_map]
      rfl

theorem mem_located {root : Value} (distinct : root.KeysDistinct) {place : List Step}
    {target : Value} : (place, target) ∈ root.located ↔ root.at? place = some target := by
  induction root using entries_induction generalizing place with
  | step root ih =>
      rw [located_eq, List.mem_cons]
      cases place with
      | nil => simp [at?, eq_comm]
      | cons step place =>
          simp only [at?_cons, ← mem_entries distinct]
          constructor
          · rintro (impossible | inside)
            · cases impossible
            · obtain ⟨entry, member, inside⟩ := List.mem_flatMap.mp inside
              obtain ⟨found, foundInside, same⟩ := List.mem_map.mp inside
              cases same
              exact ⟨entry.2, member, (ih entry member (distinct.entry member)).mp foundInside⟩
          · rintro ⟨part, member, found⟩
            have inside := (ih (step, part) member (distinct.entry member)).mpr found
            exact Or.inr (List.mem_flatMap.mpr
              ⟨_, member, List.mem_map.mpr ⟨_, inside, rfl⟩⟩)

/-- One place comes before another: it is above it, or the steps to them part at two parts of one
value, in order. -/
inductive Precedes : Value → List Step → List Step → Prop
  | above {root step place} : Precedes root [] (step :: place)
  | beside {root first second place other} : [first, second].Sublist root.steps →
      Precedes root (first :: place) (second :: other)
  | inside {root part step place other} : root.part? step = some part →
      Precedes part place other → Precedes root (step :: place) (step :: other)

theorem Precedes.irrefl {root : Value} (distinct : root.KeysDistinct) (place : List Step) :
    ¬root.Precedes place place := by
  induction place generalizing root with
  | nil => rintro ⟨⟩
  | cons step place ih =>
      rintro (_ | inOrder | ⟨found, precedes⟩)
      · have twice := inOrder.nodup (nodup_steps distinct)
        simp at twice
      · exact ih (distinct.entry ((mem_entries distinct).mpr found)) precedes

theorem Precedes.append {root value : Value} {parent place other : List Step}
    (found : root.at? parent = some value) (precedes : value.Precedes place other) :
    root.Precedes (parent ++ place) (parent ++ other) := by
  induction parent generalizing root with
  | nil =>
      cases found
      exact precedes
  | cons step parent ih =>
      obtain ⟨part, isPart, inside⟩ := at?_cons.mp found
      exact .inside isPart (ih inside)

theorem steps_ordered (root : Value) :
    root.entries.Pairwise fun entry other => [entry.1, other.1].Sublist root.steps :=
  List.pairwise_iff_forall_sublist.mpr fun inOrder => inOrder.map Prod.fst

theorem Precedes.behind {root : Value} (distinct : root.KeysDistinct) {parts : List (Step × Value)}
    (inOrder : parts.Sublist root.entries) {below : Value → List (List Step × Value)}
    (ordered : ∀ entry ∈ parts,
      (below entry.2).Pairwise fun found other => entry.2.Precedes found.1 other.1) :
    (parts.flatMap fun entry => (below entry.2).map fun found =>
      (entry.1 :: found.1, found.2)).Pairwise fun found other => root.Precedes found.1 other.1 := by
  rw [List.pairwise_flatMap]
  constructor
  · intro entry member
    have isPart := (mem_entries distinct).mp (inOrder.subset member)
    exact List.pairwise_map.mpr ((ordered entry member).imp (Precedes.inside isPart))
  · refine (root.steps_ordered.sublist inOrder).imp fun before found inside other insideToo => ?_
    obtain ⟨_, _, rfl⟩ := List.mem_map.mp inside
    obtain ⟨_, _, rfl⟩ := List.mem_map.mp insideToo
    exact .beside before

theorem located_ordered {root : Value} (distinct : root.KeysDistinct) :
    root.located.Pairwise fun found other => root.Precedes found.1 other.1 := by
  induction root using entries_induction with
  | step root ih =>
      rw [located_eq, List.pairwise_cons]
      constructor
      · intro found inside
        obtain ⟨entry, _, inside⟩ := List.mem_flatMap.mp inside
        obtain ⟨below, _, rfl⟩ := List.mem_map.mp inside
        exact .above
      · apply Precedes.behind distinct (List.Sublist.refl _)
        intro entry member
        exact ih entry member (distinct.entry member)

end Value

end Stencil
