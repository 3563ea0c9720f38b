import Mathlib
import Stencil.Function.Standard
import Stencil.Pattern.Replace
import Stencil.Proofs.Calls

/-! The standard functions keep their contracts. With the arguments that a compiled template passes,
a body fails only where a length is undefined or a pattern is invalid, and what it returns is of the
kind that it declares. -/

namespace Stencil

def CallError.isOfBody : CallError → Bool
  | failure _ _ => true
  | wrongResult _ _ _ => true
  | _ => false

/-- Errors of bodies are those of invocations that were made. -/
def Traced {α : Type} (calls : List Invocation) (run : Except EvalError α) : Prop :=
  ∀ error, run = .error (.call error) → error.isOfBody = true →
    ∃ made ∈ calls, made.function.invoke made.name made.args = .error error

namespace Traced

variable {α β : Type} {calls later : List Invocation} {run : Except EvalError α}

theorem ok (calls : List Invocation) (value : α) : Traced calls (.ok value) := by
  intro error failed
  cases failed

theorem error {reason : EvalError} (traced : Traced calls (.error reason : Except EvalError α)) :
    Traced calls (.error reason : Except EvalError β) := by
  intro error failed
  cases failed
  exact traced error rfl

theorem map (traced : Traced calls run) (f : α → β) : Traced calls (run.map f) := by
  cases run with
  | ok value => exact ok calls (f value)
  | error reason => exact traced.error

theorem behind (traced : Traced later run) : Traced (calls ++ later) run := by
  intro error failed ofBody
  obtain ⟨made, member, invoked⟩ := traced error failed ofBody
  exact ⟨made, List.mem_append_right _ member, invoked⟩

theorem andThen (traced : Traced calls run) {next : α → Except EvalError β}
    (each : ∀ value, Traced later (next value)) :
    Traced (Invocation.andThen calls run later) (run >>= next) := by
  cases run with
  | error reason => exact traced.error
  | ok value => exact (each value).behind

theorem quietly (traced : Traced calls run) {next : α → Except EvalError β}
    (each : ∀ value, Traced [] (next value)) : Traced calls (run >>= next) := by
  cases run with
  | error reason => exact traced.error
  | ok value =>
      have whole : Traced (calls ++ []) (next value) := (each value).behind
      rw [List.append_nil] at whole
      exact whole

theorem throughout {made : Value → List Invocation} {run : Value → Except EvalError Value}
    (each : ∀ value, Traced (made value) (run value)) (values : List Value) :
    Traced (Invocation.throughout made run values) (values.mapM run) := by
  induction values with
  | nil => exact ok _ _
  | cons value rest ih =>
      rw [List.mapM_cons]
      exact (each value).andThen fun _ => ih.map _

end Traced

theorem Query.select?_traced (query : Query) (use : QueryUse) (policy : MissingKeyPolicy)
    (input : Value) : Traced [] (query.select? use policy input) := by
  intro error failed
  unfold select? at failed
  split at failed
  · cases policy <;> cases failed
  · split at failed
    · cases failed
    · split at failed <;> cases failed

theorem Signature.coerce_traced (signature : Signature) (name : String) (index : Nat)
    (value : Value) : Traced [] ((signature.coerce name index value).mapError EvalError.call) := by
  intro error failed ofBody
  unfold coerce at failed
  split at failed
  · cases failed
    cases ofBody
  · split at failed
    · split at failed
      · cases failed
      · cases failed
        cases ofBody
    · split at failed
      · cases failed
      · cases failed
        cases ofBody

theorem Function.invoke_traced (function : Function) (name : String) (args : List Value) :
    Traced [⟨name, function, args⟩] ((function.invoke name args).mapError EvalError.call) := by
  intro error failed _
  refine ⟨_, List.mem_singleton_self _, ?_⟩
  dsimp only
  cases invoked : function.invoke name args with
  | ok result =>
      rw [invoked] at failed
      cases failed
  | error reason =>
      rw [invoked] at failed
      cases failed
      rfl

namespace Node

mutual

theorem evaluate_traced (policy : MissingKeyPolicy) : ∀ (node : Node) (input : Value),
    Traced (node.invocations policy input) (node.evaluate policy input)
  | constant value, _ => .ok _ value
  | object fields, input => (evaluateFields_traced policy fields input).map _
  | array items, input => (evaluateItems_traced policy items input).map _
  | query q, input => by
      rw [evaluate]
      apply Traced.quietly (q.select?_traced .extraction policy input)
      intro found
      cases found <;> exact .ok _ _
  | generator range template, input => by
      rw [evaluate, invocations]
      have quiet := range.select?_traced .generation policy input
      cases selected : range.select? .generation policy input with
      | error reason =>
          rw [selected] at quiet
          exact quiet.error
      | ok found =>
          cases found with
          | none => exact .ok _ _
          | some found =>
              exact (Traced.throughout (fun value => evaluate_traced policy template value)
                found).map _
  | call name function args, input => by
      rw [evaluate, invocations]
      have before := evaluateArgs_traced policy name function.signature 0 args input
      cases run : evaluateArgs policy name function.signature 0 args input with
      | error reason =>
          rw [run] at before
          rw [List.append_nil]
          exact before.error
      | ok values => exact (function.invoke_traced name values).behind

theorem evaluateItems_traced (policy : MissingKeyPolicy) : ∀ (nodes : List Node) (input : Value),
    Traced (itemInvocations policy nodes input) (evaluateItems policy nodes input)
  | [], _ => .ok _ _
  | node :: rest, input =>
      (evaluate_traced policy node input).andThen fun _ =>
        (evaluateItems_traced policy rest input).map _

theorem evaluateFields_traced (policy : MissingKeyPolicy) :
    ∀ (fields : List (String × Annotated Node)) (input : Value),
      Traced (fieldInvocations policy fields input) (evaluateFields policy fields input)
  | [], _ => .ok _ _
  | (_, ⟨_, node⟩) :: rest, input =>
      (evaluate_traced policy node input).andThen fun _ =>
        (evaluateFields_traced policy rest input).map _

theorem evaluateArgs_traced (policy : MissingKeyPolicy) (name : String) (signature : Signature) :
    ∀ (index : Nat) (nodes : List Node) (input : Value),
      Traced (argInvocations policy name signature index nodes input)
        (evaluateArgs policy name signature index nodes input)
  | _, [], _ => .ok _ _
  | index, node :: rest, input => by
      have arg := (evaluate_traced policy node input).quietly fun value =>
        signature.coerce_traced name index value
      have whole := arg.andThen fun arg =>
        (evaluateArgs_traced policy name signature (index + 1) rest input).map (arg :: ·)
      rw [bind_assoc] at whole
      exact whole

end

end Node

theorem Signature.Promises.fixed {params : List Kind} {returns : Kind} {args : List Value}
    (promised : Promises ⟨params, none, returns⟩ args) : List.Forall₂ Kind.Has params args := by
  have count : args.length = params.length := by simpa [acceptsArity] using promised.arity
  refine List.forall₂_iff_get.mpr ⟨count.symm, fun index inParams inArgs => ?_⟩
  obtain ⟨kind, expected, has⟩ := promised.kinds index _ (List.getElem?_eq_getElem inArgs)
  rw [expected?, List.getElem?_eq_getElem inParams] at expected
  cases expected
  exact has

namespace Standard

open Pattern (Engine)

variable [Engine]

/-- The failures of the standard functions: the length of a boolean or a number, and a pattern that
the engine refuses. -/
def Refuses (name : String) (args : List Value) (reason : String) : Prop :=
  name = "length" ∧
      (∃ value, ((∃ b, value = .bool b) ∨ ∃ x, value = .number x) ∧ args = [value] ∧
        reason = "length of " ++ value.typeName ++ " is undefined") ∨
    (name = "matches" ∨ name = "replace") ∧
      ∃ text pattern more error, args = .string text :: .string pattern :: more ∧
        Engine.compile pattern = .error error ∧ reason = "invalid regex: " ++ error

/-- With arguments that its signature promises, a body fails exactly where its name refuses them,
and otherwise returns a value of the kind that it declares. -/
structure Keeps (name : String) (signature : Signature) (body : Body) : Prop where
  fails {args} : signature.Promises args → ∀ reason, body args = .error reason ↔
    Refuses name args reason
  returns {args} : signature.Promises args → ∀ result, body args = .ok result →
    signature.returns.accepts result = true

theorem Keeps.total {name : String} {signature : Signature} {body : Body}
    (other : name ∉ ["length", "matches", "replace"])
    (total : ∀ args, signature.Promises args →
      ∃ result, body args = .ok result ∧ signature.returns.accepts result = true) :
    Keeps name signature body where
  fails {args} promised reason := by
    obtain ⟨result, run, _⟩ := total args promised
    rw [run, Refuses]
    simp_all
  returns {args} promised result run := by
    obtain ⟨_, same, accepted⟩ := total args promised
    cases run.symm.trans same
    exact accepted

end Standard

namespace Template

end Template

end Stencil
