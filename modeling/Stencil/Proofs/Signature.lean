import Stencil.Function.Basic
import Stencil.Proofs.Outcome

/-! What a signature promises the body of its function: as many arguments as it accepts, and at each
place a value of the kind that is expected there. -/

namespace Stencil

namespace Kind

/-- The values of a kind. Null is accepted for an array or an object, but it is none. -/
def Has : Kind → Value → Prop
  | any, _ => True
  | bool, value => ∃ b, value = .bool b
  | number, value => ∃ x, value = .number x
  | string, value => ∃ s, value = .string s
  | array, value => ∃ items, value = .array items
  | object, value => ∃ members, value = .object members
  | optional inner, value => value = .null ∨ inner.Has value

theorem has_null (kind : Kind) : kind.Has .null ↔ kind = any ∨ ∃ inner, kind = optional inner := by
  cases kind <;> simp [Has]

theorem zero?_has {kind : Kind} {value : Value} (zero : kind.zero? = some value) :
    kind.Has value := by
  cases kind <;> cases zero
  · trivial
  · exact ⟨[], rfl⟩
  · exact ⟨[], rfl⟩
  · exact Or.inl rfl

theorem accepts_has {kind : Kind} {value : Value} (present : value.isNull = false)
    (accepted : kind.accepts value = true) : kind.Has value := by
  induction kind with
  | any => trivial
  | optional inner ih =>
      have inside : inner.accepts value = true := by
        cases value with
        | null => cases present
        | _ => exact accepted
      exact Or.inr (ih inside)
  | _ =>
      cases value with
      | null => cases present
      | _ => first | exact ⟨_, rfl⟩ | cases accepted

end Kind

namespace Signature

/-- What the body of a function may rely on. -/
structure Promises (signature : Signature) (args : List Value) : Prop where
  arity : signature.acceptsArity args.length = true
  kinds : ∀ index arg, args[index]? = some arg →
    ∃ kind, signature.expected? index = some kind ∧ kind.Has arg

theorem expected?_isSome {signature : Signature} {count index : Nat}
    (accepted : signature.acceptsArity count = true) (inside : index < count) :
    (signature.expected? index).isSome = true := by
  rw [acceptsArity] at accepted
  rw [expected?]
  split at accepted
  next variadic =>
    cases signature.params[index]? with
    | none => exact variadic
    | some kind => rfl
  next =>
    have fixed : count = signature.params.length := by simpa using accepted
    rw [List.getElem?_eq_getElem (fixed ▸ inside)]
    rfl

theorem coerce_has {signature : Signature} {function : String} {index : Nat} {value arg : Value}
    (coerced : signature.coerce function index value = .ok arg) :
    ∃ kind, signature.expected? index = some kind ∧ kind.Has arg := by
  rw [coerce] at coerced
  split at coerced
  next => cases coerced
  next kind expected =>
    refine ⟨kind, expected, ?_⟩
    split at coerced
    next =>
      split at coerced
      next zero found =>
        cases coerced
        exact Kind.zero?_has found
      next => cases coerced
    next present =>
      split at coerced
      next accepted =>
        cases coerced
        exact Kind.accepts_has (by simpa using present) accepted
      next => cases coerced

theorem coerce_extra {signature : Signature} {function name : String} {index position : Nat}
    {value : Value} (known : (signature.expected? index).isSome = true) :
    signature.coerce function index value ≠ .error (.extraArgument name position) := by
  obtain ⟨kind, expected⟩ := Option.isSome_iff_exists.mp known
  rw [coerce, expected]
  dsimp only
  split
  · split <;> simp
  · split <;> simp

theorem Promises.null {signature : Signature} {args : List Value}
    (promised : signature.Promises args) {index : Nat} (found : args[index]? = some .null) :
    signature.expected? index = some .any ∨
      ∃ inner, signature.expected? index = some (.optional inner) := by
  obtain ⟨kind, expected, has⟩ := promised.kinds index .null found
  rw [expected]
  rcases kind.has_null.mp has with rfl | ⟨inner, rfl⟩
  · exact Or.inl rfl
  · exact Or.inr ⟨inner, rfl⟩

theorem coerce_null {signature : Signature} {function : String} {index : Nat} {kind : Kind}
    {zero : Value} (expected : signature.expected? index = some kind)
    (passed : kind.zero? = some zero) :
    signature.coerce function index .null = .ok zero := by
  rw [coerce, expected]
  simp only [Value.isNull, if_true, passed]

end Signature

theorem Function.invoke_eq_ok {function : Function} {name : String} {args : List Value}
    {result : Value} : function.invoke name args = .ok result ↔
      function.body args = .ok result ∧ function.signature.returns.accepts result = true := by
  rw [invoke]
  split
  next reason failed => simp [failed]
  next other returned =>
    rw [returned]
    constructor
    · intro invoked
      split at invoked
      next accepted =>
        cases invoked
        exact ⟨rfl, accepted⟩
      next => cases invoked
    · rintro ⟨same, accepted⟩
      cases same
      rw [if_pos accepted]

end Stencil
