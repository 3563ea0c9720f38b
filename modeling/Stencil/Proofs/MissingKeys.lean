import Stencil.Template.Evaluate

/-! The policy for missing keys decides about one error only. Both runs of a template go the same
way until the strict one meets something missing, so what it renders, and every other error it ends
with, is what the tolerant one ends with. -/

namespace Stencil

/-- How two runs compare, the second of which tolerates some errors: it ends in none of those, and
the first run ends in one of them or else like the second. -/
structure Tolerates {ε α : Type} (tolerated : ε → Bool) (strict tolerant : Except ε α) : Prop where
  never : ∀ error, tolerant = .error error → tolerated error = false
  agree : strict = tolerant ∨ ∃ error, strict = .error error ∧ tolerated error = true

namespace Tolerates

variable {ε α β : Type} {tolerated : ε → Bool}

theorem ok (value : α) : Tolerates tolerated (.ok value) (.ok value) := by
  constructor
  · intro error impossible
    cases impossible
  · exact Or.inl rfl

theorem error {reason : ε} (serious : tolerated reason = false) :
    Tolerates tolerated (.error reason : Except ε α) (.error reason) := by
  constructor
  · intro error same
    cases same
    exact serious
  · exact Or.inl rfl

theorem early {reason : ε} {tolerant : Except ε α} (mild : tolerated reason = true)
    (never : ∀ error, tolerant = .error error → tolerated error = false) :
    Tolerates tolerated (.error reason) tolerant :=
  ⟨never, Or.inr ⟨reason, rfl, mild⟩⟩

theorem bind {strict tolerant : Except ε α} {next later : α → Except ε β}
    (first : Tolerates tolerated strict tolerant)
    (second : ∀ value, Tolerates tolerated (next value) (later value)) :
    Tolerates tolerated (strict >>= next) (tolerant >>= later) := by
  have never : ∀ error, (tolerant >>= later) = .error error → tolerated error = false := by
    intro error failed
    cases tolerant with
    | error reason =>
        cases failed
        exact first.never error rfl
    | ok value => exact (second value).never error failed
  rcases first.agree with same | ⟨reason, stopped, mild⟩
  · subst same
    cases strict with
    | error reason => exact error (first.never reason rfl)
    | ok value => exact second value
  · subst stopped
    exact early mild never

theorem map {strict tolerant : Except ε α} (f : α → β)
    (runs : Tolerates tolerated strict tolerant) :
    Tolerates tolerated (strict.map f) (tolerant.map f) := by
  have mapped : ∀ run : Except ε α, run.map f = run >>= fun value => .ok (f value) := by
    intro run
    cases run <;> rfl
  rw [mapped, mapped]
  exact runs.bind fun value => ok (f value)

theorem mapM {next later : α → Except ε β}
    (each : ∀ value, Tolerates tolerated (next value) (later value)) (values : List α) :
    Tolerates tolerated (values.mapM next) (values.mapM later) := by
  induction values with
  | nil => exact ok []
  | cons value rest ih =>
      rw [List.mapM_cons, List.mapM_cons]
      exact (each value).bind fun head => ih.bind fun tail => ok (head :: tail)

theorem foldlM {next later : β → α → Except ε β}
    (each : ∀ state value, Tolerates tolerated (next state value) (later state value))
    (values : List α) (state : β) :
    Tolerates tolerated (values.foldlM next state) (values.foldlM later state) := by
  induction values generalizing state with
  | nil => exact ok state
  | cons value rest ih =>
      rw [List.foldlM_cons, List.foldlM_cons]
      exact (each state value).bind ih

end Tolerates

/-! Resolving: the errors that are tolerated are those about something missing. -/

theorem Selector.fault?_tolerant (selector : Selector) (value : Value) (error : ResolveError)
    (fault : selector.fault? true value = some error) : error.isMissing = false := by
  cases selector <;> cases value <;> simp [Selector.fault?] at fault <;> subst fault <;> rfl

theorem Selector.fault?_strict (selector : Selector) (value : Value) :
    selector.fault? false value = selector.fault? true value ∨
      ∃ error, selector.fault? false value = some error ∧ error.isMissing = true := by
  cases selector with
  | index i =>
      cases value with
      | array items =>
          by_cases inside : (position? i items.length).isSome = true
          · exact Or.inl (by simp [Selector.fault?, inside])
          · exact Or.inr ⟨.indexOutOfBounds i items.length, by simp [Selector.fault?, inside], rfl⟩
      | _ => exact Or.inl rfl
  | _ => cases value <;> exact Or.inl rfl

theorem findSome?_strict {α : Type} {strict tolerant : α → Option ResolveError}
    (each : ∀ item, strict item = tolerant item ∨
      ∃ error, strict item = some error ∧ error.isMissing = true)
    (items : List α) :
    items.findSome? strict = items.findSome? tolerant ∨
      ∃ error, items.findSome? strict = some error ∧ error.isMissing = true := by
  induction items with
  | nil => exact Or.inl rfl
  | cons item rest ih =>
      rw [List.findSome?_cons, List.findSome?_cons]
      rcases each item with same | ⟨error, found, missing⟩
      · rw [same]
        cases tolerant item with
        | none => exact ih
        | some error => exact Or.inl rfl
      · exact Or.inr ⟨error, by rw [found], missing⟩

theorem firstFault?_strict (selectors : List Selector) (inputs : List Value) :
    firstFault? false selectors inputs = firstFault? true selectors inputs ∨
      ∃ error, firstFault? false selectors inputs = some error ∧ error.isMissing = true :=
  findSome?_strict (fun input =>
    findSome?_strict (fun selector => selector.fault?_strict input) selectors) inputs

theorem firstFault?_tolerant (selectors : List Selector) (inputs : List Value)
    (error : ResolveError) (fault : firstFault? true selectors inputs = some error) :
    error.isMissing = false := by
  obtain ⟨input, _, found⟩ := List.exists_of_findSome?_eq_some fault
  obtain ⟨selector, _, found⟩ := List.exists_of_findSome?_eq_some found
  exact selector.fault?_tolerant input error found

theorem Segment.resolve_tolerates (segment : Segment) (inputs : List Value) :
    Tolerates ResolveError.isMissing (segment.resolve false inputs)
      (segment.resolve true inputs) := by
  cases segment with
  | descendant selectors => exact Tolerates.ok _
  | child selectors =>
      have never : ∀ error, (child selectors).resolve true inputs = .error error →
          error.isMissing = false := by
        intro error failed
        simp only [resolve] at failed
        split at failed
        next reason fault =>
          cases failed
          exact firstFault?_tolerant selectors inputs _ fault
        next => simp at failed
      rcases firstFault?_strict selectors inputs with same | ⟨error, fault, missing⟩
      · cases fault : firstFault? true selectors inputs with
        | some error =>
            simp only [resolve, same, fault]
            exact Tolerates.error (firstFault?_tolerant selectors inputs error fault)
        | none =>
            -- only here does a missing name count
            by_cases lost : (selected selectors inputs).isEmpty && !inputs.isEmpty
            · cases name : selectors.findSome? (·.name?) with
              | none =>
                  simp only [resolve, same, fault, lost, name]
                  exact Tolerates.ok _
              | some name =>
                  simp only [resolve, same, fault, lost, name]
                  exact Tolerates.early rfl (by simp)
            · simp only [resolve, same, fault, lost]
              exact Tolerates.ok _
      · have stopped : (child selectors).resolve false inputs = .error error := by
          simp only [resolve, fault]
        rw [stopped]
        exact Tolerates.early missing never

theorem Query.resolve_tolerates (query : Query) (root : Value) :
    Tolerates ResolveError.isMissing (query.resolve false root) (query.resolve true root) :=
  Tolerates.foldlM (fun inputs segment => segment.resolve_tolerates inputs) query.segments [root]

/-! Evaluating: the only errors that are tolerated are those about missing keys. -/

def EvalError.isMissingKey : EvalError → Bool
  | missingKey _ _ => true
  | _ => false

theorem Query.select?_tolerates (query : Query) (use : QueryUse) (input : Value) :
    Tolerates EvalError.isMissingKey (query.select? use .errorOnMissing input)
      (query.select? use .nullOnMissing input) := by
  by_cases absent : input.isNull = true
  · simp only [select?, absent, if_true]
    exact Tolerates.early rfl (by simp)
  · have runs := query.resolve_tolerates input
    simp only [select?, absent, MissingKeyPolicy.tolerates]
    have never : ∀ error, query.resolve true input = .error error → error.isMissing = false :=
      runs.never
    rcases runs.agree with same | ⟨reason, stopped, missing⟩
    · rw [same]
      cases outcome : query.resolve true input with
      | ok found => exact Tolerates.ok _
      | error reason =>
          simp only [never reason outcome]
          exact Tolerates.error rfl
    · rw [stopped]
      simp only [missing]
      apply Tolerates.early rfl
      intro error failed
      cases outcome : query.resolve true input with
      | ok found => simp [outcome] at failed
      | error reason =>
          simp only [outcome, never reason outcome] at failed
          cases failed
          rfl

theorem mapError_call_tolerates {α : Type} (outcome : Except CallError α) :
    Tolerates EvalError.isMissingKey (outcome.mapError .call) (outcome.mapError .call) := by
  cases outcome with
  | ok value => exact Tolerates.ok value
  | error reason => exact Tolerates.error rfl

namespace Node

mutual

theorem evaluate_tolerates : ∀ (node : Node) (input : Value),
    Tolerates EvalError.isMissingKey (node.evaluate .errorOnMissing input)
      (node.evaluate .nullOnMissing input)
  | constant value, _ => Tolerates.ok value
  | object fields, input => (evaluateFields_tolerates fields input).map _
  | array items, input => (evaluateItems_tolerates items input).map _
  | query q, input => by
      simp only [evaluate]
      apply (q.select?_tolerates .extraction input).bind
      intro found
      cases found <;> exact Tolerates.ok _
  | generator range template, input => by
      simp only [evaluate]
      apply (range.select?_tolerates .generation input).bind
      intro found
      cases found with
      | none => exact Tolerates.ok _
      | some found =>
          have each := fun input => evaluate_tolerates template input
          exact (Tolerates.mapM each found).bind fun values => Tolerates.ok _
  | call name function args, input => by
      simp only [evaluate]
      apply (evaluateArgs_tolerates name function.signature 0 args input).bind
      intro values
      exact mapError_call_tolerates _

theorem evaluateItems_tolerates : ∀ (nodes : List Node) (input : Value),
    Tolerates EvalError.isMissingKey (evaluateItems .errorOnMissing nodes input)
      (evaluateItems .nullOnMissing nodes input)
  | [], _ => Tolerates.ok []
  | node :: rest, input => by
      simp only [evaluateItems]
      apply (evaluate_tolerates node input).bind
      intro value
      exact (evaluateItems_tolerates rest input).bind fun values => Tolerates.ok _

theorem evaluateFields_tolerates : ∀ (fields : List (String × Annotated Node)) (input : Value),
    Tolerates EvalError.isMissingKey (evaluateFields .errorOnMissing fields input)
      (evaluateFields .nullOnMissing fields input)
  | [], _ => Tolerates.ok []
  | (name, ⟨_, node⟩) :: rest, input => by
      simp only [evaluateFields]
      apply (evaluate_tolerates node input).bind
      intro value
      exact (evaluateFields_tolerates rest input).bind fun members => Tolerates.ok _

theorem evaluateArgs_tolerates (name : String) (signature : Signature) :
    ∀ (index : Nat) (nodes : List Node) (input : Value),
      Tolerates EvalError.isMissingKey
        (evaluateArgs .errorOnMissing name signature index nodes input)
        (evaluateArgs .nullOnMissing name signature index nodes input)
  | _, [], _ => Tolerates.ok []
  | index, node :: rest, input => by
      simp only [evaluateArgs]
      apply (evaluate_tolerates node input).bind
      intro value
      apply (mapError_call_tolerates (signature.coerce name index value)).bind
      intro arg
      exact (evaluateArgs_tolerates name signature (index + 1) rest input).bind
        fun args => Tolerates.ok _

end

/-- Only missing keys are up to the policy: with tolerance there is no such error, and whatever else
the strict evaluation ends with, value or error, the tolerant one ends with too. -/
theorem evaluate_policy (node : Node) (input : Value) :
    (∀ query reason, node.evaluate .nullOnMissing input ≠ .error (.missingKey query reason)) ∧
    (∀ value, node.evaluate .errorOnMissing input = .ok value →
      node.evaluate .nullOnMissing input = .ok value) ∧
    (∀ error, node.evaluate .errorOnMissing input = .error error →
      (∀ query reason, error ≠ .missingKey query reason) →
        node.evaluate .nullOnMissing input = .error error) := by
  have runs := evaluate_tolerates node input
  refine ⟨?_, ?_, ?_⟩
  · intro query reason failed
    have serious := runs.never _ failed
    simp [EvalError.isMissingKey] at serious
  · intro value strict
    rcases runs.agree with same | ⟨error, stopped, _⟩
    · exact same ▸ strict
    · rw [strict] at stopped
      cases stopped
  · intro error strict serious
    rcases runs.agree with same | ⟨reason, stopped, missing⟩
    · exact same ▸ strict
    · rw [strict] at stopped
      cases stopped
      cases error with
      | missingKey query reason => exact absurd rfl (serious query reason)
      | unresolved query reason => simp [EvalError.isMissingKey] at missing
      | call reason => simp [EvalError.isMissingKey] at missing

end Node

end Stencil
