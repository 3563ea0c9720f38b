import Mathlib.Data.List.Forall2

/-! Runs that end well: what a success of a composed run says about its parts. -/

namespace Stencil

variable {ε δ α β : Type}

theorem bind_eq_ok {first : Except ε α} {second : α → Except ε β} {value : β} :
    (first >>= second) = .ok value ↔ ∃ middle, first = .ok middle ∧ second middle = .ok value := by
  cases first with
  | error reason => simp [bind, Except.bind]
  | ok middle => simp [bind, Except.bind]

theorem bind_eq_error {first : Except ε α} {second : α → Except ε β} {reason : ε} :
    (first >>= second) = .error reason ↔
      first = .error reason ∨ ∃ middle, first = .ok middle ∧ second middle = .error reason := by
  cases first with
  | error other => simp [bind, Except.bind]
  | ok middle => simp [bind, Except.bind]

theorem bind_congr_ok {first other : Except ε α} {second later : α → Except ε β}
    (same : other = first) (agree : ∀ value, first = .ok value → later value = second value) :
    (other >>= later) = (first >>= second) := by
  subst same
  cases other with
  | error reason => rfl
  | ok value => exact agree value rfl

theorem map_eq_ok {f : α → β} {first : Except ε α} {value : β} :
    first.map f = .ok value ↔ ∃ middle, first = .ok middle ∧ f middle = value := by
  cases first with
  | error reason => simp [Except.map]
  | ok middle => simp [Except.map]

theorem map_eq_error {f : α → β} {first : Except ε α} {reason : ε} :
    first.map f = .error reason ↔ first = .error reason := by
  cases first with
  | error other => simp [Except.map]
  | ok middle => simp [Except.map]

theorem mapError_eq_ok {f : ε → δ} {first : Except ε α} {value : α} :
    first.mapError f = .ok value ↔ first = .ok value := by
  constructor
  · intro same
    cases first with
    | error reason => cases same
    | ok middle =>
        cases same
        rfl
  · rintro rfl
    rfl

/-- Runs that differ only in what a view of their errors hides still do with more behind them. -/
theorem mapError_bind_congr {view : ε → δ} {first other : Except ε α}
    {second later : α → Except ε β} (same : first.mapError view = other.mapError view)
    (agree : ∀ value, (second value).mapError view = (later value).mapError view) :
    (first >>= second).mapError view = (other >>= later).mapError view := by
  cases first <;> cases other <;> simp_all [Except.mapError, bind, Except.bind]

theorem mapError_map_congr {view : ε → δ} {first other : Except ε α} (f : α → β)
    (same : first.mapError view = other.mapError view) :
    (first.map f).mapError view = (other.map f).mapError view := by
  cases first <;> cases other <;> simp_all [Except.mapError, Except.map]

theorem mapM_eq_ok {f : α → Except ε β} {items : List α} {results : List β} :
    items.mapM f = .ok results ↔
      List.Forall₂ (fun item result => f item = .ok result) items results := by
  induction items generalizing results with
  | nil => simp [pure, Except.pure, eq_comm]
  | cons item rest ih =>
      rw [List.mapM_cons, bind_eq_ok]
      constructor
      · rintro ⟨first, ran, more⟩
        obtain ⟨others, later, same⟩ := bind_eq_ok.mp more
        cases same
        exact .cons ran (ih.mp later)
      · rintro ⟨⟩
        rename_i first others ran later
        exact ⟨first, ran, bind_eq_ok.mpr ⟨others, ih.mpr later, rfl⟩⟩

theorem forall₂_exists {related : α → β → Prop} {items : List α} :
    (∃ results, List.Forall₂ related items results) ↔
      ∀ item ∈ items, ∃ result, related item result := by
  induction items with
  | nil => simp
  | cons item rest ih =>
      rw [List.forall_mem_cons, ← ih]
      constructor
      · rintro ⟨_, first | ⟨first, others⟩⟩
        exact ⟨⟨_, first⟩, _, others⟩
      · rintro ⟨⟨result, first⟩, results, others⟩
        exact ⟨result :: results, .cons first others⟩

theorem mapM_error {f : α → Except ε β} {before after : List α} {results : List β} {item : α}
    {reason : ε} (ran : List.Forall₂ (fun item result => f item = .ok result) before results)
    (failed : f item = .error reason) :
    (before ++ item :: after).mapM f = .error reason := by
  rw [List.mapM_append, mapM_eq_ok.mpr ran, List.mapM_cons, failed]
  rfl

end Stencil
