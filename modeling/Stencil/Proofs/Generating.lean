import Stencil.Proofs.MissingKeys
import Stencil.Proofs.Query.Composing

/-! Generators and queries. A generator renders its template for every match of its query, and never
collapses what it renders; the bare query shows the same matches. A generator inside another one
renders what a single one does for both queries together, in one array for each outer match. -/

namespace Stencil

theorem Value.isNull_iff {value : Value} : value.isNull = true ↔ value = .null := by
  cases value <;> simp [isNull]

theorem Selector.fault?_null (tolerant : Bool) (selector : Selector) :
    selector.fault? tolerant .null = none := by
  cases selector <;> rfl

theorem Selector.parts_null (selector : Selector) : selector.parts .null = [] := by
  cases selector <;> rfl

theorem selected_null (selectors : List Selector) : selected selectors [.null] = [] := by
  simp [selected, Selector.parts_null]

theorem Segment.resolve_null (segment : Segment) : segment.resolve true [.null] = .ok [] := by
  cases segment with
  | child selectors =>
      rw [resolve_child_tolerant]
      exact ⟨by simp [firstFault?, Selector.fault?_null], selected_null selectors⟩
  | descendant selectors => exact congrArg Except.ok (selected_null selectors)

/-- With tolerance null has no matches, unless the query is for null itself. -/
theorem Query.resolve_null {query : Query} (goesOn : query.segments ≠ []) :
    query.resolve true .null = .ok [] := by
  rw [resolve_eq_walk]
  cases segments : query.segments with
  | nil => exact absurd segments goesOn
  | cons segment rest =>
      rw [Segment.walk_cons, Segment.resolve_null]
      exact (Segment.walk_distributes rest).nothing

theorem Query.select?_present (query : Query) (use : QueryUse) {input : Value}
    (present : input.isNull = false) :
    query.select? use .nullOnMissing input =
      ((query.resolve true input).mapError (EvalError.unresolved query.text)).map some := by
  simp only [select?, present, MissingKeyPolicy.tolerates]
  cases outcome : query.resolve true input with
  | ok found => rfl
  | error reason =>
      have serious := (query.resolve_tolerates input).never reason outcome
      simp [serious, Except.mapError, Except.map]

namespace Node

theorem evaluate_query_present (query : Query) {input : Value} (present : input.isNull = false) :
    (Node.query query).evaluate .nullOnMissing input =
      ((query.resolve true input).mapError (EvalError.unresolved query.text)).map
        Value.ofMatches := by
  rw [evaluate, query.select?_present _ present]
  cases query.resolve true input <;> rfl

theorem evaluate_generator_present (range : Query) (template : Node) {input : Value}
    (present : input.isNull = false) :
    (generator range template).evaluate .nullOnMissing input =
      (range.resolve true input).mapError (EvalError.unresolved range.text) >>= fun found =>
        (found.mapM (template.evaluate .nullOnMissing)).map Value.array := by
  rw [evaluate, range.select?_present _ present]
  cases range.resolve true input with
  | error reason => rfl
  | ok found => cases found.mapM (template.evaluate .nullOnMissing) <;> rfl

theorem evaluate_generator_eq_ok {range : Query} {template : Node} {input : Value}
    (present : input.isNull = false) {result : Value} :
    (generator range template).evaluate .nullOnMissing input = .ok result ↔
      ∃ found values, range.resolve true input = .ok found ∧
        List.Forall₂ (fun value rendered => template.evaluate .nullOnMissing value = .ok rendered)
          found values ∧ .array values = result := by
  simp only [evaluate_generator_present range template present, bind_eq_ok, mapError_eq_ok,
    map_eq_ok, mapM_eq_ok, exists_and_left]

theorem evaluate_whole (input : Value) :
    (query ⟨"$", []⟩).evaluate .nullOnMissing input = .ok input := by
  cases input <;> rfl

theorem evaluate_each_match (path : Query) {input : Value} (present : input.isNull = false) :
    (generator path (query ⟨"$", []⟩)).evaluate .nullOnMissing input =
      ((path.resolve true input).mapError (EvalError.unresolved path.text)).map Value.array := by
  rw [evaluate_generator_present path _ present]
  cases path.resolve true input with
  | error reason => rfl
  | ok found =>
      have each : found.mapM ((query ⟨"$", []⟩).evaluate .nullOnMissing) = .ok found :=
        mapM_eq_ok.mpr (List.forall₂_same.mpr fun value _ => evaluate_whole value)
      simp only [Except.mapError, bind, Except.bind, each, Except.map]

theorem evaluate_inner_eq_ok {range : Query} {template : Node} (goesOn : range.segments ≠ [])
    (input result : Value) :
    (generator range template).evaluate .nullOnMissing input = .ok result ↔
      ∃ found values, range.resolve true input = .ok found ∧
        List.Forall₂ (fun value rendered => template.evaluate .nullOnMissing value = .ok rendered)
          found values ∧ (if input.isNull then .null else .array values) = result := by
  by_cases absent : input.isNull = true
  · cases Value.isNull_iff.mp absent
    constructor
    · intro rendered
      cases rendered
      exact ⟨[], [], Query.resolve_null goesOn, .nil, rfl⟩
    · rintro ⟨found, values, _, _, rfl⟩
      rfl
  · simp only [evaluate_generator_eq_ok (Bool.eq_false_iff.mpr absent), if_neg absent]

end Node

def Value.unpacked : Value → List Value
  | .array items => items
  | .null => []
  | value => [value]

def Value.flattened (items : List Value) : List Value :=
  items.flatMap Value.unpacked

namespace Node

section

variable {range : Query} {template : Node} (goesOn : range.segments ≠ [])

include goesOn

/-- What the inner generator renders for the outer matches holds, taken apart, what the template
renders for all matches of the inner query. -/
theorem inner_flattened {middle items : List Value}
    (ran : List.Forall₂ (fun input item =>
      (generator range template).evaluate .nullOnMissing input = .ok item) middle items) :
    (∀ item ∈ items, item = .null ∨ ∃ inner, item = .array inner) ∧
    ∃ parts, List.Forall₂ (fun input part => range.resolve true input = .ok part) middle parts ∧
      List.Forall₂ (fun value rendered => template.evaluate .nullOnMissing value = .ok rendered)
        parts.flatten (Value.flattened items) := by
  induction ran with
  | nil => exact ⟨by simp, [], .nil, .nil⟩
  | @cons input item middle items ran _ ih =>
      obtain ⟨shaped, parts, found, all⟩ := ih
      obtain ⟨part, values, foundHere, here, rfl⟩ := (evaluate_inner_eq_ok goesOn input item).mp ran
      by_cases absent : input.isNull = true
      · cases Value.isNull_iff.mp absent
        have noMatch := Query.resolve_null goesOn
        cases noMatch.symm.trans foundHere
        exact ⟨List.forall_mem_cons.mpr ⟨Or.inl rfl, shaped⟩, [] :: parts, .cons noMatch found, all⟩
      · rw [if_neg absent]
        refine ⟨List.forall_mem_cons.mpr ⟨Or.inr ⟨values, rfl⟩, shaped⟩, part :: parts, ?_, ?_⟩
        · exact .cons foundHere found
        · exact List.rel_append here all

theorem inner_succeeds {middle : List Value} {parts : List (List Value)}
    (found : List.Forall₂ (fun input part => range.resolve true input = .ok part) middle parts)
    (each : ∀ value ∈ parts.flatten, ∃ rendered,
      template.evaluate .nullOnMissing value = .ok rendered) :
    ∀ input ∈ middle, ∃ item,
      (generator range template).evaluate .nullOnMissing input = .ok item := by
  induction found with
  | nil => simp
  | @cons input part middle parts foundHere _ ih =>
      obtain ⟨here, later⟩ := List.forall_mem_append.mp each
      obtain ⟨values, rendered⟩ := forall₂_exists.mpr here
      have ran := (evaluate_inner_eq_ok goesOn input _).mpr ⟨part, values, foundHere, rendered, rfl⟩
      exact List.forall_mem_cons.mpr ⟨⟨_, ran⟩, ih later⟩

end

theorem nested_fused {first second joined : Query}
    (segments : joined.segments = first.segments ++ second.segments)
    (goesOn : second.segments ≠ []) (template : Node) {input : Value}
    (present : input.isNull = false) :
    ((∃ result, (generator joined template).evaluate .nullOnMissing input = .ok result) →
      ∃ result, (generator first (generator second template)).evaluate .nullOnMissing input =
        .ok result) ∧
    ∀ result, (generator first (generator second template)).evaluate .nullOnMissing input =
        .ok result →
      ∃ items, result = .array items ∧
        (∀ item ∈ items, item = .null ∨ ∃ inner, item = .array inner) ∧
        (generator joined template).evaluate .nullOnMissing input =
          .ok (.array (Value.flattened items)) := by
  simp only [evaluate_generator_eq_ok present, Query.resolve_joined segments]
  constructor
  · -- the single generator has all matches before it renders any, the nested one takes turns; what
    -- fails first may differ, so this goes through the success of each part
    rintro ⟨_, _, values, ⟨middle, parts, ran, found, rfl⟩, rendered, _⟩
    have each := inner_succeeds goesOn found (forall₂_exists.mp ⟨values, rendered⟩)
    obtain ⟨items, nested⟩ := forall₂_exists.mpr each
    exact ⟨_, middle, items, ran, nested, rfl⟩
  · rintro _ ⟨middle, items, ran, nested, rfl⟩
    obtain ⟨shaped, parts, found, rendered⟩ := inner_flattened goesOn nested
    exact ⟨items, rfl, shaped, _, _, ⟨middle, parts, ran, found, rfl⟩, rendered, rfl⟩

end Node

/-- Generators and bare queries see the same matches of an input that is there. A bare query fails
as the generator of its matches does and collapses what that one lists. A generator in a generator
renders where a single one does for both queries together, and what it renders is the same, in one
array for each outer match or null for an outer match that is null. -/
theorem Query.generators_agree {input : Value} (present : input.isNull = false) :
    (∃ whole, compile "$" = .ok whole ∧ ∀ path : Query,
      let bare := (Node.query path).evaluate .nullOnMissing input
      let listed := (Node.generator path (.query whole)).evaluate .nullOnMissing input
      (∀ error, bare = .error error ↔ listed = .error error) ∧
      ∀ result, listed = .ok result → ∃ items, result = .array items ∧
        (items = [] → bare = .ok .null) ∧
        (∀ value, items = [value] → bare = .ok value) ∧
        (2 ≤ items.length → bare = .ok (.array items))) ∧
    ∀ a b first second, compile ("$" ++ a) = .ok first → compile ("$" ++ b) = .ok second → b ≠ "" →
      ∃ joined, compile ("$" ++ a ++ b) = .ok joined ∧ ∀ template : Node,
        let nested := (Node.generator first (.generator second template)).evaluate
          .nullOnMissing input
        let fused := (Node.generator joined template).evaluate .nullOnMissing input
        ((∃ result, nested = .ok result) ↔ ∃ result, fused = .ok result) ∧
        ∀ result, nested = .ok result → ∃ items, result = .array items ∧
          (∀ item ∈ items, item = .null ∨ ∃ inner, item = .array inner) ∧
          fused = .ok (.array (Value.flattened items)) := by
  constructor
  · refine ⟨_, compile_dollar, fun path => ?_⟩
    simp only [Node.evaluate_query_present path present, Node.evaluate_each_match path present]
    cases path.resolve true input with
    | error reason => exact ⟨fun _ => Iff.rfl, fun _ impossible => by cases impossible⟩
    | ok found =>
        refine ⟨fun error => by simp [Except.mapError, Except.map], ?_⟩
        intro result listed
        cases listed
        refine ⟨found, rfl, ?_, ?_, ?_⟩
        · rintro rfl
          rfl
        · rintro value rfl
          rfl
        · intro several
          match found, several with
          | _ :: _ :: _, _ => rfl
  · intro a b first second compiled compiledToo some
    refine ⟨_, compile_joined compiled compiledToo, fun template => ?_⟩
    have goesOn : second.segments ≠ [] := segments_ne_nil compiledToo some
    have segments : (⟨"$" ++ a ++ b, first.segments ++ second.segments⟩ : Query).segments =
        first.segments ++ second.segments := rfl
    obtain ⟨succeeds, flattens⟩ := Node.nested_fused segments goesOn template present
    refine ⟨⟨?_, succeeds⟩, flattens⟩
    rintro ⟨result, nested⟩
    obtain ⟨_, _, _, fused⟩ := flattens result nested
    exact ⟨_, fused⟩

theorem Query.generators_agree_null :
    let input : Value := .array [.null, .array [.bool true, .null], .array []]
    let each : Query := ⟨"$[*]", [.child [.wildcard]]⟩
    let body : Node := .array [.query ⟨"$", []⟩]
    input.isNull = false ∧ compile ("$" ++ "[*]") = .ok each ∧ "[*]" ≠ "" ∧
    (Node.generator each (.generator each body)).evaluate .nullOnMissing input =
      .ok (.array [.null, .array [.array [.bool true], .array [.null]], .array []]) ∧
    ∃ joined, compile ("$" ++ "[*]" ++ "[*]") = .ok joined ∧
      (Node.generator joined body).evaluate .nullOnMissing input =
        .ok (.array [.array [.bool true], .array [.null]]) := by
  intro input each body
  have present : input.isNull = false := rfl
  have compiled : compile ("$" ++ "[*]") = .ok each := by cbv
  have nested : (Node.generator each (.generator each body)).evaluate .nullOnMissing input =
      .ok (.array [.null, .array [.array [.bool true], .array [.null]], .array []]) := rfl
  have agrees := (generators_agree present).2 "[*]" "[*]" each each
  obtain ⟨joined, compiledToo, fuses⟩ := agrees compiled compiled (by decide)
  obtain ⟨items, same, _, fused⟩ := (fuses body).2 _ nested
  cases same
  exact ⟨present, compiled, by decide, nested, joined, compiledToo, fused⟩

end Stencil
