import Mathlib
import Stencil.Proofs.Calls

/-! Other bodies under the same names. What a template renders depends on the bodies of its
functions only where they are invoked, and there their arguments are what the signature
promises. -/

namespace Stencil

open Source (Expr)

def Functions.named (functions : Functions) (name : String) (function : Function) : Function :=
  match Members.get? name functions with
  | some (.function other) => other
  | _ => function

/-- Two functions may stand for each other in a call, whatever their bodies do. -/
def Binding.Alike : Option Binding → Option Binding → Prop
  | some (.function first), some (.function second) => second.signature = first.signature
  | some (.value _), some (.value _) => True
  | none, none => True
  | _, _ => False

def Functions.Alike (functions others : Functions) : Prop :=
  ∀ name, Binding.Alike (Members.get? name functions) (Members.get? name others)

/-- Bodies may do different things only with arguments that their signature does not promise. -/
structure Functions.Agree (functions others : Functions) : Prop where
  alike : functions.Alike others
  bodies : ∀ name first second, Members.get? name functions = some (.function first) →
    Members.get? name others = some (.function second) →
    ∀ args, first.signature.Promises args → second.body args = first.body args

theorem Functions.Alike.named {functions others : Functions} (alike : functions.Alike others)
    {name : String} {function : Function}
    (bound : Members.get? name functions = some (.function function)) :
    Members.get? name others = some (.function (others.named name function)) ∧
      (others.named name function).signature = function.signature := by
  have same := alike name
  rw [bound] at same
  unfold Functions.named
  split
  next other found =>
    rw [found] at same
    exact ⟨found, same⟩
  next missing =>
    cases found : Members.get? name others with
    | none => rw [found] at same; cases same
    | some binding =>
        cases binding with
        | function other => exact absurd found (missing other)
        | value _ => rw [found] at same; cases same

theorem Functions.Alike.offers {functions others : Functions} (alike : functions.Alike others)
    {name : String} {function : Function} {count : Nat}
    (offered : functions.Offers name function count) :
    others.Offers name (others.named name function) count := by
  obtain ⟨found, same⟩ := alike.named offered.1
  exact ⟨found, same ▸ offered.2.1, same ▸ offered.2.2⟩

theorem Invocation.mapM_throughout {Agrees : Invocation → Prop} {calls : Value → List Invocation}
    {run other : Value → Except EvalError Value}
    (each : ∀ value, (∀ made ∈ calls value, Agrees made) → other value = run value)
    {values : List Value} (agree : ∀ made ∈ throughout calls run values, Agrees made) :
    values.mapM other = values.mapM run := by
  induction values with
  | nil => rfl
  | cons value rest ih =>
      rw [List.mapM_cons, List.mapM_cons]
      refine bind_congr_ok (each value fun made here => agree made (mem_andThen.mpr (Or.inl here)))
        fun result ran => ?_
      rw [ih fun made later => agree made (mem_andThen.mpr (Or.inr ⟨⟨result, ran⟩, later⟩))]

namespace Node

mutual

/-- The same template with the functions that a map has under their names. -/
def rebind (others : Functions) : Node → Node
  | constant value => constant value
  | object fields => object (rebindFields others fields)
  | array items => array (rebindItems others items)
  | query q => query q
  | generator range template => generator range (template.rebind others)
  | call name function args => call name (others.named name function) (rebindItems others args)
termination_by structural node => node

def rebindItems (others : Functions) : List Node → List Node
  | [] => []
  | node :: rest => node.rebind others :: rebindItems others rest
termination_by structural nodes => nodes

def rebindFields (others : Functions) :
    List (String × Annotated Node) → List (String × Annotated Node)
  | [] => []
  | (name, ⟨label, node⟩) :: rest => (name, ⟨label, node.rebind others⟩) :: rebindFields others rest
termination_by structural fields => fields

end

variable {functions others : Functions}

theorem rebindFields_ofList (fields : List (String × Annotated Node)) :
    rebindFields others (Members.ofList fields) = Members.ofList (rebindFields others fields) := by
  have mapped : ∀ fields : List (String × Annotated Node), rebindFields others fields =
      Members.mapContents (fun field => ⟨field.label, field.content.rebind others⟩) fields := by
    intro fields
    induction fields with
    | nil => rfl
    | cons field rest ih => rw [rebindFields, ih]; rfl
  rw [mapped, mapped, Members.ofList_mapContents]

def Unchanged (others : Functions) (made : Invocation) : Prop :=
  (others.named made.name made.function).body made.args = made.function.body made.args

mutual

/-- What a template evaluates to depends on the bodies of its functions only where they are
invoked. -/
theorem evaluate_rebind (alike : functions.Alike others) (policy : MissingKeyPolicy) :
    ∀ (node : Node) (input : Value), node.Bound functions →
      (∀ made ∈ node.invocations policy input, Unchanged others made) →
      (node.rebind others).evaluate policy input = node.evaluate policy input
  | constant _, _, _, _ => rfl
  | object fields, input, bound, unchanged => by
      rw [rebind, evaluate, evaluate,
        evaluateFields_rebind alike policy fields input bound unchanged]
  | array items, input, bound, unchanged => by
      rw [rebind, evaluate, evaluate,
        evaluateItems_rebind alike policy items input bound unchanged]
  | query _, _, _, _ => rfl
  | generator range template, input, bound, unchanged => by
      rw [rebind, evaluate, evaluate]
      refine bind_congr_ok rfl fun selected ran => ?_
      cases selected with
      | none => rfl
      | some found =>
          simp only [invocations, ran] at unchanged
          have each := fun value => evaluate_rebind alike policy template value bound
          dsimp only
          rw [Invocation.mapM_throughout each unchanged]
  | call name function args, input, bound, unchanged => by
      obtain ⟨_, same⟩ := alike.named bound.1.1
      rw [rebind, evaluate, evaluate, same]
      have before : ∀ made ∈ argInvocations policy name function.signature 0 args input,
          Unchanged others made :=
        fun made member => unchanged made (List.mem_append_left _ member)
      refine bind_congr_ok
        (evaluateArgs_rebind alike policy name function.signature 0 args input bound.2 before)
        fun values ran => ?_
      have here : Unchanged others ⟨name, function, values⟩ := by
        apply unchanged
        rw [invocations, ran]
        exact List.mem_append_right _ List.mem_cons_self
      rw [Function.invoke, Function.invoke, here, same]

theorem evaluateItems_rebind (alike : functions.Alike others) (policy : MissingKeyPolicy) :
    ∀ (nodes : List Node) (input : Value), BoundItems functions nodes →
      (∀ made ∈ itemInvocations policy nodes input, Unchanged others made) →
      evaluateItems policy (rebindItems others nodes) input = evaluateItems policy nodes input
  | [], _, _, _ => rfl
  | node :: rest, input, bound, unchanged => by
      rw [rebindItems, evaluateItems, evaluateItems]
      refine bind_congr_ok (evaluate_rebind alike policy node input bound.1 fun made here =>
        unchanged made (Invocation.mem_andThen.mpr (Or.inl here))) fun value ran => ?_
      rw [evaluateItems_rebind alike policy rest input bound.2 fun made later =>
        unchanged made (Invocation.mem_andThen.mpr (Or.inr ⟨⟨value, ran⟩, later⟩))]

theorem evaluateFields_rebind (alike : functions.Alike others) (policy : MissingKeyPolicy) :
    ∀ (fields : List (String × Annotated Node)) (input : Value), BoundFields functions fields →
      (∀ made ∈ fieldInvocations policy fields input, Unchanged others made) →
      evaluateFields policy (rebindFields others fields) input = evaluateFields policy fields input
  | [], _, _, _ => rfl
  | (_, ⟨_, node⟩) :: rest, input, bound, unchanged => by
      rw [rebindFields, evaluateFields, evaluateFields]
      refine bind_congr_ok (evaluate_rebind alike policy node input bound.1 fun made here =>
        unchanged made (Invocation.mem_andThen.mpr (Or.inl here))) fun value ran => ?_
      rw [evaluateFields_rebind alike policy rest input bound.2 fun made later =>
        unchanged made (Invocation.mem_andThen.mpr (Or.inr ⟨⟨value, ran⟩, later⟩))]

theorem evaluateArgs_rebind (alike : functions.Alike others) (policy : MissingKeyPolicy)
    (name : String) (signature : Signature) :
    ∀ (index : Nat) (nodes : List Node) (input : Value), BoundItems functions nodes →
      (∀ made ∈ argInvocations policy name signature index nodes input, Unchanged others made) →
      evaluateArgs policy name signature index (rebindItems others nodes) input =
        evaluateArgs policy name signature index nodes input
  | _, [], _, _, _ => rfl
  | index, node :: rest, input, bound, unchanged => by
      rw [rebindItems, evaluateArgs, evaluateArgs]
      refine bind_congr_ok (evaluate_rebind alike policy node input bound.1 fun made here =>
        unchanged made (Invocation.mem_andThen.mpr (Or.inl here))) fun value ran => ?_
      refine bind_congr_ok rfl fun arg coerced => ?_
      have both : (evaluate policy node input >>= fun value =>
          (signature.coerce name index value).mapError EvalError.call) = .ok arg :=
        bind_eq_ok.mpr ⟨value, ran, coerced⟩
      rw [evaluateArgs_rebind alike policy name signature (index + 1) rest input bound.2
        fun made later => unchanged made (Invocation.mem_andThen.mpr (Or.inr ⟨⟨arg, both⟩, later⟩))]

end

mutual

theorem compile_rebind (alike : functions.Alike others) : ∀ (expr : Expr) {node : Node},
    compile functions expr = .ok node → compile others expr = .ok (node.rebind others)
  | .null, _, compiled => by cases compiled; rfl
  | .bool _, _, compiled => by cases compiled; rfl
  | .number _, _, compiled => by cases compiled; rfl
  | .string _, _, compiled => by cases compiled; rfl
  | .array items, _, compiled => by
      obtain ⟨nodes, run, rfl⟩ := map_eq_ok.mp compiled
      exact map_eq_ok.mpr ⟨_, compileItems_rebind alike items run, rfl⟩
  | .object fields, _, compiled => by
      obtain ⟨nodes, run, rfl⟩ := map_eq_ok.mp compiled
      rw [rebind, rebindFields_ofList]
      exact map_eq_ok.mpr ⟨_, compileFields_rebind alike fields run, rfl⟩
  | .extractor text position, _, compiled => by
      obtain ⟨query, run, rfl⟩ := map_eq_ok.mp compiled
      exact map_eq_ok.mpr ⟨query, run, rfl⟩
  | .generator text template position, _, compiled => by
      obtain ⟨range, inner, read, run, rfl⟩ := compile_generator.mp compiled
      exact compile_generator.mpr ⟨range, _, read, compile_rebind alike template run, rfl⟩
  | .call name args position, _, compiled => by
      obtain ⟨function, nodes, offered, run, rfl⟩ := compile_call.mp compiled
      exact compile_call.mpr
        ⟨_, _, alike.offers offered, compileItems_rebind alike args run, rfl⟩

theorem compileItems_rebind (alike : functions.Alike others) : ∀ (exprs : List Expr)
    {nodes : List Node}, compileItems functions exprs = .ok nodes →
      compileItems others exprs = .ok (rebindItems others nodes)
  | [], _, compiled => by cases compiled; rfl
  | expr :: rest, _, compiled => by
      obtain ⟨node, nodes, run, later, rfl⟩ := compileItems_cons.mp compiled
      exact compileItems_cons.mpr
        ⟨_, _, compile_rebind alike expr run, compileItems_rebind alike rest later, rfl⟩

theorem compileFields_rebind (alike : functions.Alike others) :
    ∀ (fields : List (String × Annotated Expr)) {nodes : List (String × Annotated Node)},
    compileFields functions fields = .ok nodes →
      compileFields others fields = .ok (rebindFields others nodes)
  | [], _, compiled => by cases compiled; rfl
  | (_, ⟨_, expr⟩) :: rest, _, compiled => by
      obtain ⟨node, nodes, run, later, rfl⟩ := compileFields_cons.mp compiled
      exact compileFields_cons.mpr
        ⟨_, _, compile_rebind alike expr run, compileFields_rebind alike rest later, rfl⟩

end

theorem unchanged_of_agree (agree : functions.Agree others) {made : Invocation}
    (promised : Promised functions made) : Unchanged others made := by
  obtain ⟨offered, args⟩ := promised
  obtain ⟨found, _⟩ := agree.alike.named offered.1
  exact agree.bodies made.name made.function _ offered.1 found made.args args

end Node

namespace Template

/-- Bodies of functions see only arguments that their signature promises: as many as it accepts,
each of the kind that is expected in its place, and null only where null is of that kind. So no
argument is ever superfluous, and bodies that agree on such arguments render the same. -/
theorem calls_keep_signatures {functions : Functions} {source : String} {template : Template}
    (compiled : compile functions source = .ok template) :
    (∀ policy input, ∀ made ∈ template.root.invocations policy input,
      functions.Offers made.name made.function made.args.length ∧
        made.function.signature.Promises made.args ∧
        ∀ index, made.args[index]? = some Value.null →
          made.function.signature.expected? index = some .any ∨
            ∃ inner, made.function.signature.expected? index = some (.optional inner)) ∧
    (∀ policy name signature nodes input args,
      Node.evaluateArgs policy name signature 0 nodes input = .ok args →
      ∀ place node, nodes[place]? = some node → node.evaluate policy input = .ok .null →
        (signature.expected? place = some .array → args[place]? = some (.array [])) ∧
        (signature.expected? place = some .object → args[place]? = some (.object []))) ∧
    (∀ policy input name position,
      template.renderWith policy input ≠ .error (.call (.extraArgument name position))) ∧
    (∀ others, functions.Alike others → ∃ other, compile others source = .ok other ∧
      ∀ policy input,
        (∀ made ∈ template.root.invocations policy input,
          (others.named made.name made.function).body made.args =
            made.function.body made.args) →
        other.renderWith policy input = template.renderWith policy input) ∧
    (∀ others, functions.Agree others → ∃ other, compile others source = .ok other ∧
      ∀ policy input, other.renderWith policy input = template.renderWith policy input) ∧
    (∀ policy name function args input result,
      (Node.call name function args).evaluate policy input = .ok result →
        function.signature.returns.accepts result = true) := by
  obtain ⟨expr, parsed, node, run, rfl⟩ := compile_eq_ok.mp compiled
  have bound := Node.compile_bound expr run
  have promised : ∀ policy input, ∀ made ∈ node.invocations policy input,
      Node.Promised functions made :=
    fun policy input => Node.invocations_promised policy node input bound
  have rebound : ∀ others, functions.Alike others → ∃ other, compile others source = .ok other ∧
      ∀ policy input, (∀ made ∈ node.invocations policy input, Node.Unchanged others made) →
        other.renderWith policy input = node.evaluate policy input := by
    intro others alike
    refine ⟨ofNode (node.rebind others), compile_eq_ok.mpr
      ⟨expr, parsed, _, Node.compile_rebind alike expr run, rfl⟩, ?_⟩
    intro policy input unchanged
    exact Node.evaluate_rebind alike policy node input bound unchanged
  refine ⟨?_, ?_, ?_, rebound, ?_, ?_⟩
  · intro policy input made member
    obtain ⟨offered, args⟩ := promised policy input made member
    exact ⟨offered, args, fun index found => args.null found⟩
  · intro policy name signature nodes input args evaluated place node inside absent
    constructor
    · intro expected
      exact Node.evaluateArgs_zero evaluated inside absent expected rfl
    · intro expected
      exact Node.evaluateArgs_zero evaluated inside absent expected rfl
  · intro policy input name position failed
    have known := (Node.evaluate_expected policy node input bound).never _ failed
    cases known
  · intro others agree
    obtain ⟨other, again, same⟩ := rebound others agree.alike
    refine ⟨other, again, fun policy input => same policy input ?_⟩
    intro made member
    exact Node.unchanged_of_agree agree (promised policy input made member)
  · intro policy name function args input result evaluated
    exact Node.call_accepted evaluated

set_option maxRecDepth 8192 in
theorem calls_keep_signatures_pair :
    let signature : Signature := ⟨[.array], some (.optional .number), .array⟩
    let pair (body : List Value → Except String Value) : Functions :=
      [("pair", .function ⟨0, signature, body⟩)]
    let listed := pair fun args => .ok (.array args)
    let checked := pair fun args =>
      match args with
      | .array _ :: _ => .ok (.array args)
      | _ => .error "not an array"
    ∃ template, compile listed "pair($, $.n)" = .ok template ∧
      (∀ made ∈ template.root.invocations .nullOnMissing .null,
        made.function.signature.Promises made.args) ∧
      template.renderWith .nullOnMissing .null = .ok (.array [.array [], .null]) ∧
      ∃ other, compile checked "pair($, $.n)" = .ok other ∧
        ∀ policy input, other.renderWith policy input = template.renderWith policy input := by
  intro signature pair listed checked
  let root : Node := .call "pair" ⟨0, signature, fun args => .ok (.array args)⟩
    [.query ⟨"$", []⟩, .query ⟨"$.n", [.child [.name "n"]]⟩]
  have compiled : compile listed "pair($, $.n)" = .ok (ofNode root) := by cbv
  obtain ⟨promised, _, _, _, agreeing, _⟩ := calls_keep_signatures compiled
  refine ⟨ofNode root, compiled, ?_, rfl, agreeing checked ⟨?_, ?_⟩⟩
  · intro made member
    exact (promised _ _ made member).2.1
  · intro name
    by_cases same : "pair" = name <;>
      simp [listed, checked, pair, Members.get?, same, Binding.Alike]
  · intro name first second found other args promised
    by_cases same : "pair" = name
    · simp only [listed, checked, pair, Members.get?, same, if_true, Option.some.injEq,
        Binding.function.injEq] at found other
      subst found other
      cases args with
      | nil => cases promised.arity
      | cons arg rest =>
          obtain ⟨kind, expected, has⟩ := promised.kinds 0 arg rfl
          cases expected
          obtain ⟨items, rfl⟩ := has
          rfl
    · simp [listed, pair, Members.get?, same] at found

end Template

end Stencil
