import Mathlib.Data.List.Induction
import Mathlib.Data.List.Nodup
import Mathlib.Data.List.Perm.Subperm
import Stencil.Members

/-! Members that are put one after the other. -/

namespace Stencil.Members

variable {α β : Type}

def mapContents (f : α → β) (members : List (String × α)) : List (String × β) :=
  members.map fun entry => (entry.1, f entry.2)

@[simp] theorem keys_mapContents (f : α → β) (members : List (String × α)) :
    keys (mapContents f members) = keys members := by
  simp [keys, mapContents]

theorem mapContents_mapContents {γ : Type} (g : β → γ) (f : α → β) (members : List (String × α)) :
    mapContents g (mapContents f members) = mapContents (fun content => g (f content)) members :=
  List.map_map

theorem mapContents_id (members : List (String × α)) : mapContents id members = members :=
  List.map_id members

theorem mapContents_congr {f g : α → β} {members : List (String × α)}
    (same : ∀ member ∈ members, f member.2 = g member.2) :
    mapContents f members = mapContents g members :=
  List.map_congr_left fun member inside => congrArg _ (same member inside)

theorem distinct_mapContents (f : α → β) {members : List (String × α)}
    (distinct : Distinct members) : Distinct (mapContents f members) := by
  rw [Distinct, keys_mapContents]
  exact distinct

theorem put_mapContents (f : α → β) (name : String) (content : α) (members : List (String × α)) :
    put name (f content) (mapContents f members) = mapContents f (put name content members) := by
  induction members with
  | nil => rfl
  | cons entry rest ih =>
      obtain ⟨key, old⟩ := entry
      change put name (f content) ((key, f old) :: mapContents f rest) = _
      rw [put, put]
      split
      · rfl
      · rw [ih]
        rfl

theorem putAll_mapContents (f : α → β) (members entries : List (String × α)) :
    putAll (mapContents f members) (mapContents f entries) =
      mapContents f (putAll members entries) := by
  induction entries generalizing members with
  | nil => rfl
  | cons entry rest ih =>
      have step := ih (put entry.1 entry.2 members)
      rw [← put_mapContents] at step
      exact step

theorem ofList_mapContents (f : α → β) (entries : List (String × α)) :
    ofList (mapContents f entries) = mapContents f (ofList entries) :=
  putAll_mapContents f [] entries

theorem mem_put {name : String} {content : α} {members : List (String × α)} {entry : String × α}
    (member : entry ∈ put name content members) : entry = (name, content) ∨ entry ∈ members := by
  induction members with
  | nil => exact Or.inl (List.mem_singleton.mp member)
  | cons first rest ih =>
      obtain ⟨key, old⟩ := first
      rw [put] at member
      split at member
      · rcases List.mem_cons.mp member with same | later
        · exact Or.inl same
        · exact Or.inr (List.mem_cons_of_mem _ later)
      · rcases List.mem_cons.mp member with same | later
        · exact Or.inr (same ▸ List.mem_cons_self)
        · exact (ih later).imp_right (List.mem_cons_of_mem _)

theorem mem_putAll {members entries : List (String × α)} {entry : String × α}
    (member : entry ∈ putAll members entries) : entry ∈ members ∨ entry ∈ entries := by
  induction entries generalizing members with
  | nil => exact Or.inl member
  | cons first rest ih =>
      rcases ih member with put | later
      · rcases mem_put put with rfl | present
        · exact Or.inr List.mem_cons_self
        · exact Or.inl present
      · exact Or.inr (List.mem_cons_of_mem _ later)

theorem mem_ofList {entries : List (String × α)} {entry : String × α}
    (member : entry ∈ ofList entries) : entry ∈ entries :=
  (mem_putAll member).resolve_left List.not_mem_nil

theorem distinct_putAll {members : List (String × α)} (entries : List (String × α))
    (distinct : Distinct members) : Distinct (putAll members entries) := by
  induction entries generalizing members with
  | nil => exact distinct
  | cons first rest ih => exact ih (distinct_put first.1 first.2 distinct)

theorem distinct_ofList (entries : List (String × α)) : Distinct (ofList entries) :=
  distinct_putAll entries List.nodup_nil

theorem put_fresh {name : String} (content : α) {members : List (String × α)}
    (fresh : name ∉ keys members) : put name content members = members ++ [(name, content)] := by
  induction members with
  | nil => rfl
  | cons entry rest ih =>
      obtain ⟨key, old⟩ := entry
      simp only [keys, List.map_cons, List.mem_cons, not_or] at fresh
      rw [put, if_neg (Ne.symm fresh.1), ih fresh.2, List.cons_append]

theorem putAll_distinct {members entries : List (String × α)}
    (distinct : Distinct (members ++ entries)) : putAll members entries = members ++ entries := by
  induction entries generalizing members with
  | nil => exact (List.append_nil members).symm
  | cons entry rest ih =>
      have fresh : entry.1 ∉ keys members := by
        rw [Distinct, keys, List.map_append, List.map_cons, List.nodup_append] at distinct
        intro present
        exact distinct.2.2 _ present _ List.mem_cons_self rfl
      have placed := put_fresh entry.2 fresh
      have later : Distinct (put entry.1 entry.2 members ++ rest) := by
        rw [placed, List.append_assoc]
        exact distinct
      have step := ih later
      rw [placed, List.append_assoc] at step
      change putAll (put entry.1 entry.2 members) rest = _
      rw [placed]
      exact step

theorem ofList_distinct {entries : List (String × α)} (distinct : Distinct entries) :
    ofList entries = entries :=
  putAll_distinct distinct

theorem ofList_concat (entries : List (String × α)) (entry : String × α) :
    ofList (entries ++ [entry]) = put entry.1 entry.2 (ofList entries) :=
  List.foldl_append

theorem eraseDups_concat (names : List String) (name : String) :
    (names ++ [name]).eraseDups =
      if name ∈ names then names.eraseDups else names.eraseDups ++ [name] := by
  rw [List.eraseDups_append]
  split
  next present => simp [List.removeAll, present]
  next fresh => simp [List.removeAll, fresh, List.eraseDups_cons]

theorem keys_ofList (entries : List (String × α)) :
    keys (ofList entries) = (keys entries).eraseDups := by
  induction entries using List.reverseRecOn with
  | nil => rfl
  | append_singleton entries entry ih =>
      have names : keys (entries ++ [entry]) = keys entries ++ [entry.1] := by simp [keys]
      rw [ofList_concat, keys_put, ih, names, eraseDups_concat]
      simp only [List.mem_eraseDups]

theorem get?_ofList (name : String) (entries : List (String × α)) :
    get? name (ofList entries) = get? name entries.reverse := by
  induction entries using List.reverseRecOn with
  | nil => rfl
  | append_singleton entries entry ih =>
      rw [ofList_concat, List.reverse_append, List.reverse_singleton, List.singleton_append, get?]
      split
      next same =>
        subst same
        exact get?_put_self _ _ _
      next other => rw [get?_put_other _ _ other, ih]

theorem get?_mapContents (f : α → β) (name : String) (members : List (String × α)) :
    get? name (mapContents f members) = (get? name members).map f := by
  induction members with
  | nil => rfl
  | cons entry rest ih =>
      change get? name ((entry.1, f entry.2) :: mapContents f rest) = _
      rw [get?, get?]
      split
      · rfl
      · exact ih

theorem mem_of_get? {name : String} {content : α} {members : List (String × α)}
    (found : get? name members = some content) : (name, content) ∈ members := by
  induction members with
  | nil => cases found
  | cons entry rest ih =>
      rw [get?] at found
      split at found
      next same =>
        cases found
        exact same ▸ List.mem_cons_self
      next => exact List.mem_cons_of_mem _ (ih found)

theorem get?_split {name : String} {content : α} {members : List (String × α)}
    (found : get? name members = some content) :
    ∃ before after, members = before ++ (name, content) :: after ∧ name ∉ keys before := by
  induction members with
  | nil => cases found
  | cons entry rest ih =>
      rw [get?] at found
      split at found
      next same =>
        cases found
        exact ⟨[], rest, same ▸ rfl, List.not_mem_nil⟩
      next other =>
        obtain ⟨before, after, rfl, fresh⟩ := ih found
        refine ⟨entry :: before, after, rfl, ?_⟩
        exact List.not_mem_cons_of_ne_of_not_mem (Ne.symm other) fresh

theorem get?_of_mem {name : String} {content : α} {members : List (String × α)}
    (distinct : Distinct members) (member : (name, content) ∈ members) :
    get? name members = some content := by
  induction members with
  | nil => cases member
  | cons entry rest ih =>
      obtain ⟨fresh, others⟩ := List.nodup_cons.mp distinct
      rw [get?]
      rcases List.mem_cons.mp member with rfl | later
      · rw [if_pos rfl]
      · have present : name ∈ keys rest := List.mem_map.mpr ⟨_, later, rfl⟩
        have other : entry.1 ≠ name := by
          rintro rfl
          exact fresh present
        rw [if_neg other, ih others later]

theorem mem_ofList_split {name : String} {content : α} {entries : List (String × α)}
    (member : (name, content) ∈ ofList entries) :
    ∃ before after, entries = before ++ (name, content) :: after ∧ name ∉ keys after := by
  have found := get?_of_mem (distinct_ofList entries) member
  rw [get?_ofList] at found
  obtain ⟨after, before, cut, fresh⟩ := get?_split found
  refine ⟨before.reverse, after.reverse, ?_, ?_⟩
  · have turned := congrArg List.reverse cut
    rwa [List.reverse_reverse, List.reverse_append, List.reverse_cons, List.append_assoc,
      List.singleton_append] at turned
  · rwa [keys, List.map_reverse, List.mem_reverse]

/-- Two objects have the same members, in whatever order, where they are equally long and one finds
its members in the other. -/
theorem perm_iff {members others : List (String × α)} (distinct : Distinct members)
    (distinctToo : Distinct others) :
    members.Perm others ↔ members.length = others.length ∧
      ∀ entry ∈ members, get? entry.1 others = some entry.2 := by
  constructor
  · intro perm
    refine ⟨perm.length_eq, ?_⟩
    intro entry member
    exact get?_of_mem distinctToo (perm.mem_iff.mp member)
  · rintro ⟨length, found⟩
    have once : members.Nodup := List.Nodup.of_map Prod.fst distinct
    have inside : members ⊆ others := fun entry member => mem_of_get? (found entry member)
    exact (List.subperm_of_subset once inside).perm_of_length_le (Nat.le_of_eq length.symm)

end Stencil.Members
