/-! The members of an object: a list of names and contents in order. Putting a name that is already
there replaces its content and keeps its place. -/

namespace Stencil.Members

variable {α β : Type}

def get? (name : String) : List (String × α) → Option α
  | [] => none
  | (key, content) :: rest => if key = name then some content else get? name rest

def put (name : String) (content : α) : List (String × α) → List (String × α)
  | [] => [(name, content)]
  | (key, old) :: rest =>
    if key = name then (name, content) :: rest else (key, old) :: put name content rest

def putAll (members entries : List (String × α)) : List (String × α) :=
  entries.foldl (fun members entry => put entry.1 entry.2 members) members

def ofList (entries : List (String × α)) : List (String × α) :=
  putAll [] entries

def keys (members : List (String × α)) : List String :=
  members.map Prod.fst

def Distinct (members : List (String × α)) : Prop :=
  (keys members).Nodup

@[simp] theorem get?_put_self (name : String) (content : α) (members : List (String × α)) :
    get? name (put name content members) = some content := by
  induction members with
  | nil => simp [put, get?]
  | cons entry rest step =>
    by_cases same : entry.1 = name <;> simp [put, get?, same, step]

theorem get?_put_other {name other : String} (content : α) (members : List (String × α))
    (differs : name ≠ other) :
    get? other (put name content members) = get? other members := by
  induction members with
  | nil => simp [put, get?, differs]
  | cons entry rest step =>
    by_cases same : entry.1 = name
    · subst same
      simp [put, get?, differs]
    · simp [put, get?, same, step]

theorem keys_put (name : String) (content : α) (members : List (String × α)) :
    keys (put name content members) =
      if name ∈ keys members then keys members else keys members ++ [name] := by
  induction members with
  | nil => simp [put, keys]
  | cons entry rest step =>
    by_cases same : entry.1 = name
    · simp [put, keys, same]
    · have other : name ≠ entry.1 := Ne.symm same
      simp only [put, same, if_false, keys, List.map_cons, List.mem_cons, other, false_or] at step ⊢
      rw [step]
      by_cases present : name ∈ rest.map Prod.fst <;> simp [present]

theorem distinct_put {members : List (String × α)} (name : String) (content : α)
    (distinct : Distinct members) : Distinct (put name content members) := by
  unfold Distinct at *
  rw [keys_put]
  split
  · exact distinct
  · rename_i fresh
    rw [List.nodup_append]
    refine ⟨distinct, by simp, ?_⟩
    intro key present other sole
    simp only [List.mem_singleton] at sole
    subst sole
    intro same
    exact fresh (same ▸ present)

end Stencil.Members
