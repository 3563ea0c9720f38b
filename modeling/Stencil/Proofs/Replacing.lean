import Stencil.Proofs.Calls
import Stencil.Proofs.Query.Descent
import Stencil.Proofs.Query.Failing

/-! Fields that repeat a name. An object literal keeps of each name its first place and its last
content, and only what it keeps is evaluated. So no object that a template renders has a name twice,
if none has that the template is given. -/

namespace Stencil

open Source (Expr Position)

namespace Value.KeysDistinct

variable {value : Value}

theorem of_ofMatches {found : List Value} (distinct : ∀ value ∈ found, value.KeysDistinct) :
    (ofMatches found).KeysDistinct := by
  unfold ofMatches
  split
  · exact .null
  · exact distinct _ List.mem_cons_self
  · exact .array distinct

theorem parts (distinct : value.KeysDistinct) (selector : Selector) :
    ∀ part ∈ selector.parts value, part.KeysDistinct := by
  intro part taken
  rw [selector.parts_eq_picked] at taken
  obtain ⟨entry, picked, rfl⟩ := List.mem_map.mp taken
  exact distinct.entry ((selector.picked_sublist value).subset picked)

theorem descendants (distinct : value.KeysDistinct) :
    ∀ part ∈ value.descendants, part.KeysDistinct := by
  induction value using entries_induction with
  | step root ih =>
      intro part inside
      rw [descendants_eq] at inside
      rcases List.mem_cons.mp inside with rfl | below
      · exact distinct
      · obtain ⟨entry, member, found⟩ := List.mem_flatMap.mp below
        exact ih entry member (distinct.entry member) part found

theorem selected {selectors : List Selector} {inputs : List Value}
    (distinct : ∀ input ∈ inputs, input.KeysDistinct) :
    ∀ part ∈ selected selectors inputs, part.KeysDistinct := by
  intro part found
  obtain ⟨input, member, taken⟩ := List.mem_flatMap.mp found
  obtain ⟨selector, _, picked⟩ := List.mem_flatMap.mp taken
  exact (distinct input member).parts selector part picked

end Value.KeysDistinct

theorem Segment.resolve_distinct {segment : Segment} {tolerant : Bool} {inputs found : List Value}
    (distinct : ∀ input ∈ inputs, input.KeysDistinct)
    (run : segment.resolve tolerant inputs = .ok found) : ∀ part ∈ found, part.KeysDistinct := by
  rw [← resolve_eq_taken run]
  cases segment with
  | child selectors => exact Value.KeysDistinct.selected distinct
  | descendant selectors =>
      apply Value.KeysDistinct.selected
      intro part inside
      obtain ⟨input, member, below⟩ := List.mem_flatMap.mp inside
      exact (distinct input member).descendants part below

theorem Segment.walk_distinct {segments : List Segment} {tolerant : Bool}
    {inputs found : List Value} (distinct : ∀ input ∈ inputs, input.KeysDistinct)
    (run : walk tolerant segments inputs = .ok found) : ∀ part ∈ found, part.KeysDistinct := by
  induction segments generalizing inputs with
  | nil =>
      cases run
      exact distinct
  | cons segment rest ih =>
      rw [walk_cons] at run
      obtain ⟨middle, first, more⟩ := bind_eq_ok.mp run
      exact ih (resolve_distinct distinct first) more

theorem Query.select?_distinct {query : Query} {use : QueryUse} {policy : MissingKeyPolicy}
    {input : Value} {found : List Value} (distinct : input.KeysDistinct)
    (run : query.select? use policy input = .ok (some found)) :
    ∀ part ∈ found, part.KeysDistinct := by
  unfold select? at run
  split at run
  · cases policy <;> cases run
  · split at run
    next resolved =>
      cases run
      rw [resolve_eq_walk] at resolved
      exact Segment.walk_distinct (List.forall_mem_singleton.mpr distinct) resolved
    next => split at run <;> cases run

theorem Kind.zero?_distinct {kind : Kind} {zero : Value} (found : kind.zero? = some zero) :
    zero.KeysDistinct := by
  cases kind <;> cases found
  · exact .null
  · exact .array (List.forall_mem_nil _)
  · exact .object List.nodup_nil (List.forall_mem_nil _)
  · exact .null

theorem Signature.coerce_distinct {signature : Signature} {name : String} {index : Nat}
    {value arg : Value} (distinct : value.KeysDistinct)
    (coerced : signature.coerce name index value = .ok arg) : arg.KeysDistinct := by
  unfold coerce at coerced
  split at coerced
  next => cases coerced
  next =>
    split at coerced
    next =>
      split at coerced
      next zero =>
        cases coerced
        exact Kind.zero?_distinct zero
      next => cases coerced
    next =>
      split at coerced
      next =>
        cases coerced
        exact distinct
      next => cases coerced

def Invocation.KeepsDistinct (made : Invocation) : Prop :=
  (∀ arg ∈ made.args, arg.KeysDistinct) →
    ∀ result, made.function.body made.args = .ok result → result.KeysDistinct

/-- What a run ends with is good, as far as that depends on the invocations it makes. -/
def Ensures {α : Type} (calls : List Invocation) (run : Except EvalError α) (Good : α → Prop) :
    Prop :=
  (∀ made ∈ calls, made.KeepsDistinct) → ∀ value, run = .ok value → Good value

namespace Ensures

variable {α β : Type} {calls later : List Invocation} {run : Except EvalError α} {Good : α → Prop}
  {Better : β → Prop}

theorem ok {value : α} (good : Good value) : Ensures calls (.ok value) Good := by
  rintro _ _ ⟨⟩
  exact good

theorem map (ensures : Ensures calls run Good) {f : α → β}
    (each : ∀ value, Good value → Better (f value)) : Ensures calls (run.map f) Better := by
  intro keep result ran
  obtain ⟨value, first, rfl⟩ := map_eq_ok.mp ran
  exact each value (ensures keep value first)

theorem andThen (ensures : Ensures calls run Good) {next : α → Except EvalError β}
    (each : ∀ value, Good value → Ensures later (next value) Better) :
    Ensures (Invocation.andThen calls run later) (run >>= next) Better := by
  intro keep result ran
  obtain ⟨value, first, more⟩ := bind_eq_ok.mp ran
  subst first
  obtain ⟨before, behind⟩ := List.forall_mem_append.mp keep
  exact each value (ensures before value rfl) behind result more

theorem quietly (ensures : Ensures calls run Good) {next : α → Except EvalError β}
    (each : ∀ value, Good value → ∀ result, next value = .ok result → Better result) :
    Ensures calls (run >>= next) Better := by
  intro keep result ran
  obtain ⟨value, first, more⟩ := bind_eq_ok.mp ran
  exact each value (ensures keep value first) result more

theorem throughout {calls : Value → List Invocation} {run : Value → Except EvalError Value}
    {values : List Value}
    (each : ∀ value ∈ values, Ensures (calls value) (run value) Value.KeysDistinct) :
    Ensures (Invocation.throughout calls run values) (values.mapM run)
      (∀ value ∈ ·, value.KeysDistinct) := by
  induction values with
  | nil => exact ok (List.forall_mem_nil _)
  | cons value rest ih =>
      obtain ⟨first, others⟩ := List.forall_mem_cons.mp each
      rw [List.mapM_cons]
      exact first.andThen fun _ good => (ih others).map fun _ more =>
        List.forall_mem_cons.mpr ⟨good, more⟩

end Ensures

namespace Node

mutual

def ConstantsDistinct : Node → Prop
  | constant value => value.KeysDistinct
  | object fields => ConstantsDistinctFields fields
  | array items => ConstantsDistinctItems items
  | query _ => True
  | generator _ template => template.ConstantsDistinct
  | call _ _ args => ConstantsDistinctItems args
termination_by structural node => node

def ConstantsDistinctItems : List Node → Prop
  | [] => True
  | node :: rest => node.ConstantsDistinct ∧ ConstantsDistinctItems rest
termination_by structural nodes => nodes

def ConstantsDistinctFields : List (String × Annotated Node) → Prop
  | [] => True
  | (_, ⟨_, node⟩) :: rest => node.ConstantsDistinct ∧ ConstantsDistinctFields rest
termination_by structural fields => fields

end

theorem ofList_distinct {members : List (String × Value)}
    (distinct : ∀ member ∈ members, member.2.KeysDistinct) :
    (Value.object (Members.ofList members)).KeysDistinct :=
  .object (Members.distinct_ofList members) fun member kept =>
    distinct member (Members.mem_ofList kept)

mutual

theorem evaluate_distinct (policy : MissingKeyPolicy) : ∀ (node : Node) (input : Value),
    node.ConstantsDistinct → input.KeysDistinct →
      Ensures (node.invocations policy input) (node.evaluate policy input) Value.KeysDistinct
  | constant _, _, constants, _ => .ok constants
  | object fields, input, constants, distinct =>
      (evaluateFields_distinct policy fields input constants distinct).map fun _ =>
        ofList_distinct
  | array items, input, constants, distinct =>
      (evaluateItems_distinct policy items input constants distinct).map fun _ => .array
  | query q, input, _, distinct => by
      intro _ result ran
      obtain ⟨found, selected, rest⟩ := bind_eq_ok.mp ran
      cases found with
      | none =>
          cases rest
          exact .null
      | some found =>
          cases rest
          exact .of_ofMatches (Query.select?_distinct distinct selected)
  | generator range template, input, constants, distinct => by
      rw [evaluate, invocations]
      cases selected : range.select? .generation policy input with
      | error reason => exact fun _ _ ran => nomatch ran
      | ok found =>
          cases found with
          | none => exact .ok .null
          | some found =>
              have parts := Query.select?_distinct distinct selected
              have each := Ensures.throughout fun value inside =>
                evaluate_distinct policy template value constants (parts value inside)
              exact each.map fun _ => .array
  | call name function args, input, constants, distinct => by
      intro keep result ran
      obtain ⟨values, coerced, invoked⟩ := bind_eq_ok.mp ran
      rw [invocations, coerced] at keep
      obtain ⟨before, here⟩ := List.forall_mem_append.mp keep
      have given := evaluateArgs_distinct policy name function.signature 0 args input constants
        distinct before values coerced
      have returned := (Function.invoke_eq_ok.mp (mapError_eq_ok.mp invoked)).1
      exact List.forall_mem_singleton.mp here given result returned

theorem evaluateItems_distinct (policy : MissingKeyPolicy) :
    ∀ (nodes : List Node) (input : Value), ConstantsDistinctItems nodes → input.KeysDistinct →
      Ensures (itemInvocations policy nodes input) (evaluateItems policy nodes input)
        (∀ value ∈ ·, value.KeysDistinct)
  | [], _, _, _ => .ok (List.forall_mem_nil _)
  | node :: rest, input, constants, distinct =>
      (evaluate_distinct policy node input constants.1 distinct).andThen fun _ good =>
        (evaluateItems_distinct policy rest input constants.2 distinct).map fun _ more =>
          List.forall_mem_cons.mpr ⟨good, more⟩

theorem evaluateFields_distinct (policy : MissingKeyPolicy) :
    ∀ (fields : List (String × Annotated Node)) (input : Value),
      ConstantsDistinctFields fields → input.KeysDistinct →
      Ensures (fieldInvocations policy fields input) (evaluateFields policy fields input)
        (∀ member ∈ ·, member.2.KeysDistinct)
  | [], _, _, _ => .ok (List.forall_mem_nil _)
  | (_, ⟨_, node⟩) :: rest, input, constants, distinct =>
      (evaluate_distinct policy node input constants.1 distinct).andThen fun _ good =>
        (evaluateFields_distinct policy rest input constants.2 distinct).map fun _ more =>
          List.forall_mem_cons.mpr ⟨good, more⟩

theorem evaluateArgs_distinct (policy : MissingKeyPolicy) (name : String)
    (signature : Signature) : ∀ (index : Nat) (nodes : List Node) (input : Value),
      ConstantsDistinctItems nodes → input.KeysDistinct →
      Ensures (argInvocations policy name signature index nodes input)
        (evaluateArgs policy name signature index nodes input) (∀ arg ∈ ·, arg.KeysDistinct)
  | _, [], _, _, _ => .ok (List.forall_mem_nil _)
  | index, node :: rest, input, constants, distinct => by
      have arg : Ensures (node.invocations policy input) (node.evaluate policy input >>=
          fun value => (signature.coerce name index value).mapError EvalError.call)
          Value.KeysDistinct :=
        (evaluate_distinct policy node input constants.1 distinct).quietly
          fun _ good _ coerced => Signature.coerce_distinct good (mapError_eq_ok.mp coerced)
      rw [argInvocations, evaluateArgs, ← bind_assoc]
      exact arg.andThen fun _ good =>
        (evaluateArgs_distinct policy name signature (index + 1) rest input constants.2
          distinct).map fun _ more => List.forall_mem_cons.mpr ⟨good, more⟩

end

variable {functions : Functions}

theorem compileFields_keys {fields : List (String × Annotated Expr)}
    {nodes : List (String × Annotated Node)}
    (compiled : compileFields functions fields = .ok nodes) :
    Members.keys nodes = Members.keys fields := by
  induction fields generalizing nodes with
  | nil =>
      cases compiled
      rfl
  | cons field rest ih =>
      obtain ⟨node, others, _, later, rfl⟩ := compileFields_cons.mp compiled
      exact congrArg _ (ih later)

theorem compileFields_split {fields : List (String × Annotated Expr)}
    {before after : List (String × Annotated Node)} {field : String × Annotated Node}
    (compiled : compileFields functions fields = .ok (before ++ field :: after)) :
    ∃ front expr behind, fields = front ++ (field.1, ⟨field.2.label, expr⟩) :: behind ∧
      compile functions expr = .ok field.2.content ∧
      compileFields functions behind = .ok after := by
  induction before generalizing fields with
  | nil =>
      cases fields with
      | nil => cases compiled
      | cons first rest =>
          obtain ⟨node, others, run, later, same⟩ := compileFields_cons.mp compiled
          cases same
          exact ⟨[], first.2.content, rest, rfl, run, later⟩
  | cons other before ih =>
      cases fields with
      | nil => cases compiled
      | cons first rest =>
          obtain ⟨node, others, _, later, same⟩ := compileFields_cons.mp compiled
          cases same
          obtain ⟨front, expr, behind, rfl, run, more⟩ := ih later
          exact ⟨first :: front, expr, behind, rfl, run, more⟩

def contents (fields : List (String × Annotated Node)) : List (String × Node) :=
  Members.mapContents (·.content) fields

/-- How named contents are evaluated in turn, with the invocations that are made: all of them, or up
to the first that fails. -/
inductive InTurn (policy : MissingKeyPolicy) (input : Value) (kept : List (String × Node)) :
    Except EvalError (List (String × Value)) → List Invocation → Prop
  | all {values} :
      List.Forall₂ (fun field value => field.2.evaluate policy input = .ok value) kept values →
      InTurn policy input kept (.ok ((Members.keys kept).zip values))
        (kept.flatMap (·.2.invocations policy input))
  | failed {before field after error} : kept = before ++ field :: after →
      (∀ other ∈ before, ∃ value, other.2.evaluate policy input = .ok value) →
      field.2.evaluate policy input = .error error →
      InTurn policy input kept (.error error)
        ((before ++ [field]).flatMap (·.2.invocations policy input))

theorem evaluateFields_in_turn (policy : MissingKeyPolicy) (input : Value)
    (fields : List (String × Annotated Node)) :
    InTurn policy input (contents fields) (evaluateFields policy fields input)
      (fieldInvocations policy fields input) := by
  induction fields with
  | nil => exact .all .nil
  | cons first rest ih =>
      obtain ⟨name, ⟨label, node⟩⟩ := first
      change InTurn policy input ((name, node) :: contents rest) _ _
      rw [evaluateFields, fieldInvocations]
      cases run : node.evaluate policy input with
      | error error =>
          have calls : node.invocations policy input =
              [(name, node)].flatMap (·.2.invocations policy input) := by simp
          rw [Invocation.andThen, calls]
          exact .failed rfl (List.forall_mem_nil _) run
      | ok value =>
          generalize contents rest = kept, evaluateFields policy rest input = outcome,
            fieldInvocations policy rest input = calls at ih
          cases ih with
          | all values => exact .all (.cons run values)
          | failed cut done failed =>
              exact .failed (congrArg ((name, node) :: ·) cut)
                (List.forall_mem_cons.mpr ⟨⟨value, run⟩, done⟩) failed

theorem InTurn.keys {policy : MissingKeyPolicy} {input : Value} {kept : List (String × Node)}
    {members : List (String × Value)} {calls : List Invocation}
    (inTurn : InTurn policy input kept (.ok members) calls) :
    Members.keys members = Members.keys kept := by
  cases inTurn with
  | all values =>
      refine List.map_fst_zip (Nat.le_of_eq ?_)
      rw [Members.keys, List.length_map, values.length_eq]

theorem evaluate_object_in_turn (policy : MissingKeyPolicy) (input : Value)
    {fields : List (String × Annotated Node)} (distinct : Members.Distinct fields) :
    ∃ run, InTurn policy input (contents fields) run ((object fields).invocations policy input) ∧
      (object fields).evaluate policy input = run.map .object := by
  have inTurn := evaluateFields_in_turn policy input fields
  refine ⟨_, inTurn, ?_⟩
  rw [evaluate]
  cases run : evaluateFields policy fields input with
  | error error => rfl
  | ok members =>
      rw [run] at inTurn
      have once : Members.Distinct members := by
        rw [Members.Distinct, inTurn.keys, contents, Members.keys_mapContents]
        exact distinct
      rw [Except.map, Except.map, Members.ofList_distinct once]

/-- An object literal keeps of each name its first place and its last content, and evaluates these
in turn. No rendered object names a member twice, unless one does in the input or in a constant, or
a function makes one. -/
theorem first_place_last_content :
    (∀ (functions : Functions) (fields : List (String × Annotated Expr)) (node : Node),
      compile functions (.object fields) = .ok node →
      ∃ kept : List (String × Node), Members.keys kept = (Members.keys fields).eraseDups ∧
        (∀ name content, (name, content) ∈ kept →
          ∃ before label expr after, fields = before ++ (name, ⟨label, expr⟩) :: after ∧
            name ∉ Members.keys after ∧ compile functions expr = .ok content) ∧
        ∀ policy input, ∃ run, InTurn policy input kept run (node.invocations policy input) ∧
          node.evaluate policy input = run.map .object) ∧
    ∀ (node : Node) (policy : MissingKeyPolicy) (input result : Value),
      node.ConstantsDistinct → input.KeysDistinct →
      (∀ made ∈ node.invocations policy input, made.KeepsDistinct) →
      node.evaluate policy input = .ok result → result.KeysDistinct := by
  constructor
  · intro functions fields node compiled
    obtain ⟨nodes, each, rfl⟩ := map_eq_ok.mp compiled
    refine ⟨contents (Members.ofList nodes), ?_, ?_, ?_⟩
    · rw [contents, Members.keys_mapContents, Members.keys_ofList, compileFields_keys each]
    · intro name content member
      obtain ⟨⟨_, label, _⟩, kept, ⟨⟩⟩ := List.mem_map.mp member
      obtain ⟨before, after, rfl, last⟩ := Members.mem_ofList_split kept
      obtain ⟨front, expr, behind, cut, run, more⟩ := compileFields_split each
      exact ⟨front, label, expr, behind, cut, compileFields_keys more ▸ last, run⟩
    · intro policy input
      exact evaluate_object_in_turn policy input (Members.distinct_ofList nodes)
  · intro node policy input result constants distinct keep ran
    exact evaluate_distinct policy node input constants distinct keep result ran

def first : Function :=
  ⟨0, ⟨[.any], none, .any⟩, fun args => .ok (args.headD .null)⟩

def repeated : List (String × Annotated Expr) :=
  [("a", ⟨none, .null⟩), ("b", ⟨some "x", .call "first" [.extractor "$" .start] .start⟩),
    ("a", ⟨none, .bool true⟩)]

def replaced : Node :=
  object [("a", ⟨none, constant (.bool true)⟩),
    ("b", ⟨some "x", call "first" first [query ⟨"$", []⟩]⟩)]

theorem first_place_last_content_repeated :
    compile [("first", .function first)] (.object repeated) = .ok replaced ∧
    (∃ kept, Members.keys kept = ["a", "b"] ∧
      ∃ run, InTurn .errorOnMissing (.string "c") kept run [⟨"first", first, [.string "c"]⟩] ∧
        run.map Value.object = .ok (.object [("a", .bool true), ("b", .string "c")])) ∧
    (Value.object [("a", .bool true), ("b", .string "c")]).KeysDistinct := by
  have root : Query.compile "$" = .ok ⟨"$", []⟩ := by cbv
  have compiled : compile [("first", .function first)] (.object repeated) = .ok replaced := by
    simp only [repeated, compile, compileFields, compileItems, compileQuery, root]
    rfl
  have evaluated : replaced.evaluate .errorOnMissing (.string "c") =
      .ok (.object [("a", .bool true), ("b", .string "c")]) := rfl
  have constants : replaced.ConstantsDistinct := ⟨.bool true, ⟨trivial, trivial⟩, trivial⟩
  refine ⟨compiled, ?_, ?_⟩
  · obtain ⟨kept, keys, _, turns⟩ := first_place_last_content.1 _ _ _ compiled
    obtain ⟨run, inTurn, same⟩ := turns .errorOnMissing (.string "c")
    exact ⟨kept, keys.trans (by decide), run, inTurn, same.symm.trans evaluated⟩
  · refine first_place_last_content.2 _ _ _ _ constants (.string "c") ?_ evaluated
    refine List.forall_mem_singleton.mpr fun given result returned => ?_
    cases returned
    exact given _ List.mem_cons_self

end Node

end Stencil
