import Stencil.Proofs.Members
import Stencil.Proofs.MissingKeys
import Stencil.Proofs.Outcome
import Stencil.Proofs.Signature
import Stencil.Template.Basic

/-! The calls that rendering a template makes. Compiling checks the number of arguments and
evaluating coerces each of them, so no body of a function ever sees arguments that its signature
does not promise, and what a body does with others does not matter. -/

namespace Stencil

open Source (Expr Position)

def Functions.Offers (functions : Functions) (name : String) (function : Function) (count : Nat) :
    Prop :=
  Members.get? name functions = some (.function function) ∧
    function.signature.isWellFormed = true ∧ function.signature.acceptsArity count = true

theorem Functions.forCall_eq_ok (functions : Functions) (name : String) (count : Nat)
    (position : Position) (function : Function) :
    functions.forCall name count position = .ok function ↔
      functions.Offers name function count := by
  rw [forCall, Offers]
  split
  next nothing => simp [nothing]
  next value found => simp [found]
  next other found =>
    rw [found]
    constructor
    · intro run
      split at run
      next => cases run
      next wellFormed =>
        split at run
        next => cases run
        next accepted =>
          cases run
          exact ⟨rfl, by simpa using wellFormed, by simpa using accepted⟩
    · rintro ⟨same, wellFormed, accepted⟩
      cases same
      simp [wellFormed, accepted]

structure Invocation where
  name : String
  function : Function
  args : List Value

def Invocation.andThen {α : Type} (first : List Invocation) (run : Except EvalError α)
    (later : List Invocation) : List Invocation :=
  match run with
  | .ok _ => first ++ later
  | .error _ => first

def Invocation.throughout (calls : Value → List Invocation) (run : Value → Except EvalError Value) :
    List Value → List Invocation
  | [] => []
  | value :: rest => andThen (calls value) (run value) (throughout calls run rest)

theorem Invocation.mem_andThen {α : Type} {first later : List Invocation}
    {run : Except EvalError α} {call : Invocation} :
    call ∈ andThen first run later ↔ call ∈ first ∨ (∃ value, run = .ok value) ∧ call ∈ later := by
  cases run <;> simp [andThen]

theorem Invocation.mem_throughout {calls : Value → List Invocation}
    {run : Value → Except EvalError Value} {values : List Value} {call : Invocation}
    (member : call ∈ throughout calls run values) : ∃ value ∈ values, call ∈ calls value := by
  induction values with
  | nil => cases member
  | cons value rest ih =>
      rcases mem_andThen.mp member with here | ⟨_, later⟩
      · exact ⟨value, List.mem_cons_self, here⟩
      · obtain ⟨other, inside, found⟩ := ih later
        exact ⟨other, List.mem_cons_of_mem _ inside, found⟩

namespace Node

mutual

/-- The bodies that evaluating applies, in this order, up to the first failure. -/
def invocations (policy : MissingKeyPolicy) : Node → Value → List Invocation
  | constant _, _ => []
  | object fields, input => fieldInvocations policy fields input
  | array items, input => itemInvocations policy items input
  | query _, _ => []
  | generator range template, input =>
    match range.select? .generation policy input with
    | .ok (some found) =>
      Invocation.throughout (invocations policy template) (evaluate policy template) found
    | _ => []
  | call name function args, input =>
    let run := evaluateArgs policy name function.signature 0 args input
    argInvocations policy name function.signature 0 args input ++
      match run with
      | .ok values => [⟨name, function, values⟩]
      | .error _ => []
termination_by structural node => node

def itemInvocations (policy : MissingKeyPolicy) : List Node → Value → List Invocation
  | [], _ => []
  | node :: rest, input =>
    Invocation.andThen (invocations policy node input) (evaluate policy node input)
      (itemInvocations policy rest input)
termination_by structural nodes => nodes

def fieldInvocations (policy : MissingKeyPolicy) :
    List (String × Annotated Node) → Value → List Invocation
  | [], _ => []
  | (_, ⟨_, node⟩) :: rest, input =>
    Invocation.andThen (invocations policy node input) (evaluate policy node input)
      (fieldInvocations policy rest input)
termination_by structural fields => fields

def argInvocations (policy : MissingKeyPolicy) (name : String) (signature : Signature)
    (index : Nat) : List Node → Value → List Invocation
  | [], _ => []
  | node :: rest, input =>
    let run := do
      let value ← evaluate policy node input
      (signature.coerce name index value).mapError EvalError.call
    Invocation.andThen (invocations policy node input) run
      (argInvocations policy name signature (index + 1) rest input)
termination_by structural nodes => nodes

end

mutual

/-- Every call in a template is to a function of the map, with as many arguments as that accepts. -/
def Bound (functions : Functions) : Node → Prop
  | constant _ => True
  | object fields => BoundFields functions fields
  | array items => BoundItems functions items
  | query _ => True
  | generator _ template => template.Bound functions
  | call name function args =>
    functions.Offers name function args.length ∧ BoundItems functions args
termination_by structural node => node

def BoundItems (functions : Functions) : List Node → Prop
  | [] => True
  | node :: rest => node.Bound functions ∧ BoundItems functions rest
termination_by structural nodes => nodes

def BoundFields (functions : Functions) : List (String × Annotated Node) → Prop
  | [] => True
  | (_, ⟨_, node⟩) :: rest => node.Bound functions ∧ BoundFields functions rest
termination_by structural fields => fields

end

variable {functions : Functions}

theorem boundFields_iff (fields : List (String × Annotated Node)) :
    BoundFields functions fields ↔ ∀ field ∈ fields, field.2.content.Bound functions := by
  induction fields with
  | nil => simp [BoundFields]
  | cons field rest ih => simp [BoundFields, ih]

theorem compileItems_cons {expr : Expr} {rest : List Expr} {nodes : List Node} :
    compileItems functions (expr :: rest) = .ok nodes ↔
      ∃ node others, compile functions expr = .ok node ∧
        compileItems functions rest = .ok others ∧ nodes = node :: others := by
  constructor
  · intro compiled
    obtain ⟨node, run, more⟩ := bind_eq_ok.mp compiled
    obtain ⟨others, later, same⟩ := bind_eq_ok.mp more
    cases same
    exact ⟨node, others, run, later, rfl⟩
  · rintro ⟨node, others, run, later, rfl⟩
    exact bind_eq_ok.mpr ⟨node, run, bind_eq_ok.mpr ⟨others, later, rfl⟩⟩

theorem compileFields_cons {name : String} {label : Option String} {expr : Expr}
    {rest : List (String × Annotated Expr)} {nodes : List (String × Annotated Node)} :
    compileFields functions ((name, ⟨label, expr⟩) :: rest) = .ok nodes ↔
      ∃ node others, compile functions expr = .ok node ∧
        compileFields functions rest = .ok others ∧ nodes = (name, ⟨label, node⟩) :: others := by
  constructor
  · intro compiled
    obtain ⟨node, run, more⟩ := bind_eq_ok.mp compiled
    obtain ⟨others, later, same⟩ := bind_eq_ok.mp more
    cases same
    exact ⟨node, others, run, later, rfl⟩
  · rintro ⟨node, others, run, later, rfl⟩
    exact bind_eq_ok.mpr ⟨node, run, bind_eq_ok.mpr ⟨others, later, rfl⟩⟩

theorem compile_generator {text : String} {template : Expr} {position : Position} {node : Node} :
    compile functions (.generator text template position) = .ok node ↔
      ∃ range inner, compileQuery text position = .ok range ∧
        compile functions template = .ok inner ∧ node = generator range inner := by
  constructor
  · intro compiled
    obtain ⟨range, read, more⟩ := bind_eq_ok.mp compiled
    obtain ⟨inner, run, same⟩ := bind_eq_ok.mp more
    cases same
    exact ⟨range, inner, read, run, rfl⟩
  · rintro ⟨range, inner, read, run, rfl⟩
    exact bind_eq_ok.mpr ⟨range, read, bind_eq_ok.mpr ⟨inner, run, rfl⟩⟩

theorem compile_call {name : String} {args : List Expr} {position : Position} {node : Node} :
    compile functions (.call name args position) = .ok node ↔
      ∃ function nodes, functions.Offers name function args.length ∧
        compileItems functions args = .ok nodes ∧ node = call name function nodes := by
  constructor
  · intro compiled
    obtain ⟨function, offered, more⟩ := bind_eq_ok.mp compiled
    obtain ⟨nodes, run, same⟩ := bind_eq_ok.mp more
    cases same
    exact ⟨function, nodes, (functions.forCall_eq_ok _ _ _ _).mp offered, run, rfl⟩
  · rintro ⟨function, nodes, offered, run, rfl⟩
    exact bind_eq_ok.mpr ⟨function, (functions.forCall_eq_ok _ _ position _).mpr offered,
      bind_eq_ok.mpr ⟨nodes, run, rfl⟩⟩

theorem compileItems_length {exprs : List Expr} {nodes : List Node}
    (compiled : compileItems functions exprs = .ok nodes) : nodes.length = exprs.length := by
  induction exprs generalizing nodes with
  | nil =>
      cases compiled
      rfl
  | cons expr rest ih =>
      obtain ⟨node, others, _, later, rfl⟩ := compileItems_cons.mp compiled
      simp [ih later]

mutual

theorem compile_bound : ∀ (expr : Expr) {node : Node},
    compile functions expr = .ok node → node.Bound functions
  | .null, _, compiled => by cases compiled; trivial
  | .bool _, _, compiled => by cases compiled; trivial
  | .number _, _, compiled => by cases compiled; trivial
  | .string _, _, compiled => by cases compiled; trivial
  | .array items, _, compiled => by
      obtain ⟨nodes, run, rfl⟩ := map_eq_ok.mp compiled
      exact compileItems_bound items run
  | .object fields, _, compiled => by
      obtain ⟨nodes, run, rfl⟩ := map_eq_ok.mp compiled
      have bound := (boundFields_iff nodes).mp (compileFields_bound fields run)
      exact (boundFields_iff _).mpr fun field inside => bound field (Members.mem_ofList inside)
  | .extractor text position, _, compiled => by
      obtain ⟨query, _, rfl⟩ := map_eq_ok.mp compiled
      trivial
  | .generator text template position, _, compiled => by
      obtain ⟨range, inner, _, run, rfl⟩ := compile_generator.mp compiled
      change inner.Bound functions
      exact compile_bound template run
  | .call name args position, _, compiled => by
      obtain ⟨function, nodes, offered, run, rfl⟩ := compile_call.mp compiled
      rw [← compileItems_length run] at offered
      exact ⟨offered, compileItems_bound args run⟩

theorem compileItems_bound : ∀ (exprs : List Expr) {nodes : List Node},
    compileItems functions exprs = .ok nodes → BoundItems functions nodes
  | [], _, compiled => by cases compiled; trivial
  | expr :: rest, _, compiled => by
      obtain ⟨node, others, run, later, rfl⟩ := compileItems_cons.mp compiled
      exact ⟨compile_bound expr run, compileItems_bound rest later⟩

theorem compileFields_bound : ∀ (fields : List (String × Annotated Expr))
    {nodes : List (String × Annotated Node)},
    compileFields functions fields = .ok nodes → BoundFields functions nodes
  | [], _, compiled => by cases compiled; trivial
  | (_, ⟨_, expr⟩) :: rest, _, compiled => by
      obtain ⟨node, others, run, later, rfl⟩ := compileFields_cons.mp compiled
      exact ⟨compile_bound expr run, compileFields_bound rest later⟩

end

theorem evaluateArgs_coerced {policy : MissingKeyPolicy} {name : String} {signature : Signature}
    {index : Nat} {nodes : List Node} {input : Value} {args : List Value}
    (run : evaluateArgs policy name signature index nodes input = .ok args) :
    args.length = nodes.length ∧ ∀ (place : Nat) (arg : Value), args[place]? = some arg →
      ∃ node value, nodes[place]? = some node ∧ node.evaluate policy input = .ok value ∧
        signature.coerce name (index + place) value = .ok arg := by
  induction nodes generalizing index args with
  | nil =>
      cases run
      exact ⟨rfl, fun place arg found => by cases found⟩
  | cons node rest ih =>
      obtain ⟨value, evaluated, coercing⟩ := bind_eq_ok.mp run
      obtain ⟨arg, coerced, others⟩ := bind_eq_ok.mp coercing
      obtain ⟨args, later, same⟩ := bind_eq_ok.mp others
      cases same
      obtain ⟨length, inside⟩ := ih later
      refine ⟨by simp [length], ?_⟩
      intro place other found
      cases place with
      | zero =>
          cases found
          exact ⟨node, value, rfl, evaluated, mapError_eq_ok.mp coerced⟩
      | succ place =>
          have further := inside place other found
          rwa [Nat.add_assoc, Nat.add_comm 1] at further

theorem evaluateArgs_promised {policy : MissingKeyPolicy} {name : String} {signature : Signature}
    {nodes : List Node} {input : Value} {args : List Value}
    (accepted : signature.acceptsArity nodes.length = true)
    (run : evaluateArgs policy name signature 0 nodes input = .ok args) :
    signature.Promises args := by
  obtain ⟨length, coerced⟩ := evaluateArgs_coerced run
  refine ⟨length ▸ accepted, fun index arg found => ?_⟩
  obtain ⟨_, _, _, _, passed⟩ := coerced index arg found
  rw [Nat.zero_add] at passed
  exact Signature.coerce_has passed

theorem evaluateArgs_zero {policy : MissingKeyPolicy} {name : String} {signature : Signature}
    {nodes : List Node} {input : Value} {args : List Value} {place : Nat} {node : Node}
    {kind : Kind} {zero : Value} (run : evaluateArgs policy name signature 0 nodes input = .ok args)
    (inside : nodes[place]? = some node) (absent : node.evaluate policy input = .ok .null)
    (expected : signature.expected? place = some kind) (passed : kind.zero? = some zero) :
    args[place]? = some zero := by
  obtain ⟨length, coerced⟩ := evaluateArgs_coerced run
  obtain ⟨bound, _⟩ := List.getElem?_eq_some_iff.mp inside
  have found : args[place]? = some args[place] := List.getElem?_eq_getElem (length ▸ bound)
  obtain ⟨other, value, same, evaluated, coercion⟩ := coerced place _ found
  cases inside.symm.trans same
  cases absent.symm.trans evaluated
  rw [Nat.zero_add, Signature.coerce_null expected passed] at coercion
  cases coercion
  exact found

/-- An invocation of a function of the map, with arguments that its signature promises. -/
def Promised (functions : Functions) (call : Invocation) : Prop :=
  functions.Offers call.name call.function call.args.length ∧
    call.function.signature.Promises call.args

mutual

theorem invocations_promised (policy : MissingKeyPolicy) : ∀ (node : Node) (input : Value),
    node.Bound functions → ∀ made ∈ node.invocations policy input, Promised functions made
  | constant _, _, _, _, member => by cases member
  | object fields, input, bound, made, member =>
      fieldInvocations_promised policy fields input bound made member
  | array items, input, bound, made, member =>
      itemInvocations_promised policy items input bound made member
  | query _, _, _, _, member => by cases member
  | generator range template, input, bound, made, member => by
      rw [invocations] at member
      split at member
      next found _ =>
        obtain ⟨value, _, inside⟩ := Invocation.mem_throughout member
        exact invocations_promised policy template value bound made inside
      next => cases member
  | .call name function args, input, bound, made, member => by
      rw [invocations] at member
      rcases List.mem_append.mp member with before | here
      · exact argInvocations_promised policy name function.signature 0 args input bound.2 made
          before
      · split at here
        next values run =>
          cases List.mem_singleton.mp here
          refine ⟨?_, evaluateArgs_promised bound.1.2.2 run⟩
          rw [(evaluateArgs_coerced run).1]
          exact bound.1
        next => cases here

theorem itemInvocations_promised (policy : MissingKeyPolicy) :
    ∀ (nodes : List Node) (input : Value), BoundItems functions nodes →
      ∀ made ∈ itemInvocations policy nodes input, Promised functions made
  | [], _, _, _, member => by cases member
  | node :: rest, input, bound, made, member => by
      rcases Invocation.mem_andThen.mp member with here | ⟨_, later⟩
      · exact invocations_promised policy node input bound.1 made here
      · exact itemInvocations_promised policy rest input bound.2 made later

theorem fieldInvocations_promised (policy : MissingKeyPolicy) :
    ∀ (fields : List (String × Annotated Node)) (input : Value), BoundFields functions fields →
      ∀ made ∈ fieldInvocations policy fields input, Promised functions made
  | [], _, _, _, member => by cases member
  | (_, ⟨_, node⟩) :: rest, input, bound, made, member => by
      rcases Invocation.mem_andThen.mp member with here | ⟨_, later⟩
      · exact invocations_promised policy node input bound.1 made here
      · exact fieldInvocations_promised policy rest input bound.2 made later

theorem argInvocations_promised (policy : MissingKeyPolicy) (name : String)
    (signature : Signature) : ∀ (index : Nat) (nodes : List Node) (input : Value),
    BoundItems functions nodes →
      ∀ made ∈ argInvocations policy name signature index nodes input, Promised functions made
  | _, [], _, _, _, member => by cases member
  | index, node :: rest, input, bound, made, member => by
      rcases Invocation.mem_andThen.mp member with here | ⟨_, later⟩
      · exact invocations_promised policy node input bound.1 made here
      · exact argInvocations_promised policy name signature (index + 1) rest input bound.2 made
          later

end

end Node

/-! No argument is superfluous. A run that never ends in an error tolerates it in itself. -/

def EvalError.isExtraArgument : EvalError → Bool
  | call (.extraArgument _ _) => true
  | _ => false

theorem mapError_call_expected {α : Type} {outcome : Except CallError α}
    (known : ∀ name position, outcome ≠ .error (.extraArgument name position)) :
    Tolerates EvalError.isExtraArgument (outcome.mapError .call) (outcome.mapError .call) := by
  cases outcome with
  | ok value => exact Tolerates.ok value
  | error reason =>
      refine Tolerates.error ?_
      cases reason with
      | extraArgument name position => exact absurd rfl (known name position)
      | _ => rfl

theorem Query.select?_expected (query : Query) (use : QueryUse) (policy : MissingKeyPolicy)
    (input : Value) : Tolerates EvalError.isExtraArgument (query.select? use policy input)
      (query.select? use policy input) := by
  refine ⟨fun error failed => ?_, Or.inl rfl⟩
  cases error with
  | call reason =>
      unfold select? at failed
      split at failed
      · cases policy <;> cases failed
      · split at failed
        · cases failed
        · split at failed <;> cases failed
  | _ => rfl

theorem Function.invoke_expected (function : Function) (name : String) (args : List Value)
    (other : String) (position : Nat) :
    function.invoke name args ≠ .error (.extraArgument other position) := by
  rw [invoke]
  split
  · simp
  · split <;> simp

namespace Node

variable {functions : Functions}

mutual

theorem evaluate_expected (policy : MissingKeyPolicy) : ∀ (node : Node) (input : Value),
    node.Bound functions → Tolerates EvalError.isExtraArgument (node.evaluate policy input)
      (node.evaluate policy input)
  | constant value, _, _ => Tolerates.ok value
  | object fields, input, bound => (evaluateFields_expected policy fields input bound).map _
  | array items, input, bound => (evaluateItems_expected policy items input bound).map _
  | query q, input, _ => by
      rw [evaluate]
      apply (q.select?_expected .extraction policy input).bind
      intro found
      cases found <;> exact Tolerates.ok _
  | generator range template, input, bound => by
      rw [evaluate]
      apply (range.select?_expected .generation policy input).bind
      intro found
      cases found with
      | none => exact Tolerates.ok _
      | some found =>
          have each := fun input => evaluate_expected policy template input bound
          exact (Tolerates.mapM each found).bind fun values => Tolerates.ok _
  | call name function args, input, bound => by
      rw [evaluate]
      apply (evaluateArgs_expected policy name function.signature 0 args input
        ((Nat.zero_add _).symm ▸ bound.1.2.2) bound.2).bind
      intro values
      exact mapError_call_expected (function.invoke_expected name values)

theorem evaluateItems_expected (policy : MissingKeyPolicy) : ∀ (nodes : List Node) (input : Value),
    BoundItems functions nodes → Tolerates EvalError.isExtraArgument
      (evaluateItems policy nodes input) (evaluateItems policy nodes input)
  | [], _, _ => Tolerates.ok []
  | node :: rest, input, bound => by
      rw [evaluateItems]
      apply (evaluate_expected policy node input bound.1).bind
      intro value
      exact (evaluateItems_expected policy rest input bound.2).bind fun values => Tolerates.ok _

theorem evaluateFields_expected (policy : MissingKeyPolicy) :
    ∀ (fields : List (String × Annotated Node)) (input : Value), BoundFields functions fields →
      Tolerates EvalError.isExtraArgument (evaluateFields policy fields input)
        (evaluateFields policy fields input)
  | [], _, _ => Tolerates.ok []
  | (_, ⟨_, node⟩) :: rest, input, bound => by
      rw [evaluateFields]
      apply (evaluate_expected policy node input bound.1).bind
      intro value
      exact (evaluateFields_expected policy rest input bound.2).bind fun members => Tolerates.ok _

theorem evaluateArgs_expected (policy : MissingKeyPolicy) (name : String) (signature : Signature) :
    ∀ (index : Nat) (nodes : List Node) (input : Value),
      signature.acceptsArity (index + nodes.length) = true → BoundItems functions nodes →
      Tolerates EvalError.isExtraArgument (evaluateArgs policy name signature index nodes input)
        (evaluateArgs policy name signature index nodes input)
  | _, [], _, _, _ => Tolerates.ok []
  | index, node :: rest, input, accepted, bound => by
      rw [evaluateArgs]
      apply (evaluate_expected policy node input bound.1).bind
      intro value
      have known : (signature.expected? index).isSome = true :=
        Signature.expected?_isSome accepted (by simp)
      apply (mapError_call_expected fun _ _ => Signature.coerce_extra known).bind
      intro arg
      rw [List.length_cons, Nat.add_comm rest.length, ← Nat.add_assoc] at accepted
      exact (evaluateArgs_expected policy name signature (index + 1) rest input accepted
        bound.2).bind fun args => Tolerates.ok _

end

theorem call_accepted {policy : MissingKeyPolicy} {name : String} {function : Function}
    {args : List Node} {input result : Value}
    (run : (call name function args).evaluate policy input = .ok result) :
    function.signature.returns.accepts result = true := by
  rw [evaluate] at run
  obtain ⟨values, _, invoked⟩ := bind_eq_ok.mp run
  exact (Function.invoke_eq_ok.mp (mapError_eq_ok.mp invoked)).2

end Node

namespace Template

theorem compile_eq_ok {functions : Functions} {source : String} {template : Template} :
    compile functions source = .ok template ↔ ∃ expr, Source.parse source = .ok expr ∧
      ∃ node, Node.compile functions expr = .ok node ∧ template = ofNode node := by
  constructor
  · intro compiled
    obtain ⟨expr, parsed, run⟩ := bind_eq_ok.mp compiled
    obtain ⟨node, made, same⟩ := bind_eq_ok.mp run
    cases same
    exact ⟨expr, mapError_eq_ok.mp parsed, node, made, rfl⟩
  · rintro ⟨expr, parsed, node, made, rfl⟩
    exact bind_eq_ok.mpr
      ⟨expr, mapError_eq_ok.mpr parsed, bind_eq_ok.mpr ⟨node, made, rfl⟩⟩

end Template

end Stencil
