import Stencil.Proofs.Outcome
import Stencil.Proofs.Query.Segments
import Stencil.Query.Resolve

/-! Queries put one behind the other. With tolerance no segment compares its inputs with each other,
so going on from all matches at once leads where going on from each of them does. -/

namespace Stencil

variable {ε α : Type}

/-- A run over a list that goes through its parts on their own, one after the other. -/
structure Distributes (run : List α → Except ε (List α)) : Prop where
  nothing : run [] = .ok []
  append : ∀ first second found, run (first ++ second) = .ok found ↔
    ∃ left right, run first = .ok left ∧ run second = .ok right ∧ left ++ right = found

namespace Distributes

theorem ok : Distributes (fun items : List α => (.ok items : Except ε (List α))) := by
  refine ⟨rfl, ?_⟩
  intro first second found
  simp

theorem andThen {run next : List α → Except ε (List α)} (runs : Distributes run)
    (goesOn : Distributes next) : Distributes fun items => run items >>= next := by
  constructor
  · rw [runs.nothing]
    exact goesOn.nothing
  · intro first second found
    constructor
    · intro ran
      obtain ⟨middle, ranFirst, ranNext⟩ := bind_eq_ok.mp ran
      obtain ⟨left, right, ranLeft, ranRight, rfl⟩ := (runs.append _ _ _).mp ranFirst
      obtain ⟨before, behind, toBefore, toBehind, rfl⟩ := (goesOn.append _ _ _).mp ranNext
      exact ⟨before, behind, bind_eq_ok.mpr ⟨left, ranLeft, toBefore⟩,
        bind_eq_ok.mpr ⟨right, ranRight, toBehind⟩, rfl⟩
    · rintro ⟨before, behind, ranBefore, ranBehind, rfl⟩
      obtain ⟨left, ranLeft, toBefore⟩ := bind_eq_ok.mp ranBefore
      obtain ⟨right, ranRight, toBehind⟩ := bind_eq_ok.mp ranBehind
      exact bind_eq_ok.mpr ⟨left ++ right, (runs.append _ _ _).mpr ⟨_, _, ranLeft, ranRight, rfl⟩,
        (goesOn.append _ _ _).mpr ⟨_, _, toBefore, toBehind, rfl⟩⟩

theorem each {run : List α → Except ε (List α)} (runs : Distributes run) (items found : List α) :
    run items = .ok found ↔
      ∃ parts, List.Forall₂ (fun item part => run [item] = .ok part) items parts ∧
        parts.flatten = found := by
  induction items generalizing found with
  | nil => simp [runs.nothing]
  | cons item rest ih =>
      rw [← List.singleton_append, runs.append]
      constructor
      · rintro ⟨part, others, ranItem, ranRest, rfl⟩
        obtain ⟨parts, ranEach, rfl⟩ := (ih others).mp ranRest
        exact ⟨part :: parts, .cons ranItem ranEach, rfl⟩
      · rintro ⟨_, ranItem | ⟨ranItem, ranEach⟩, rfl⟩
        exact ⟨_, _, ranItem, (ih _).mpr ⟨_, ranEach, rfl⟩, rfl⟩

end Distributes

theorem selected_append (selectors : List Selector) (first second : List Value) :
    selected selectors (first ++ second) = selected selectors first ++ selected selectors second :=
  List.flatMap_append

theorem firstFault?_append_eq_none (tolerant : Bool) (selectors : List Selector)
    (first second : List Value) : firstFault? tolerant selectors (first ++ second) = none ↔
      firstFault? tolerant selectors first = none ∧
        firstFault? tolerant selectors second = none := by
  simp only [firstFault?, List.findSome?_eq_none_iff, List.forall_mem_append]

theorem Segment.resolve_child_tolerant (selectors : List Selector) (inputs found : List Value) :
    (child selectors).resolve true inputs = .ok found ↔
      firstFault? true selectors inputs = none ∧ selected selectors inputs = found := by
  rw [resolve]
  cases firstFault? true selectors inputs <;> simp

theorem Segment.resolve_distributes (segment : Segment) : Distributes (segment.resolve true) := by
  cases segment with
  | child selectors =>
      constructor
      · rfl
      · intro first second found
        simp only [resolve_child_tolerant, firstFault?_append_eq_none, selected_append]
        constructor
        · rintro ⟨⟨before, behind⟩, rfl⟩
          exact ⟨_, _, ⟨before, rfl⟩, ⟨behind, rfl⟩, rfl⟩
        · rintro ⟨_, _, ⟨before, rfl⟩, ⟨behind, rfl⟩, rfl⟩
          exact ⟨⟨before, behind⟩, rfl⟩
  | descendant selectors =>
      constructor
      · rfl
      · intro first second found
        simp [resolve, selected_append]

namespace Segment

def walk (tolerant : Bool) (segments : List Segment) (inputs : List Value) :
    Except ResolveError (List Value) :=
  segments.foldlM (fun inputs segment => segment.resolve tolerant inputs) inputs

theorem walk_cons (tolerant : Bool) (segment : Segment) (rest : List Segment)
    (inputs : List Value) :
    walk tolerant (segment :: rest) inputs = segment.resolve tolerant inputs >>= walk tolerant rest :=
  List.foldlM_cons

theorem walk_append (tolerant : Bool) (before behind : List Segment) (inputs : List Value) :
    walk tolerant (before ++ behind) inputs = walk tolerant before inputs >>= walk tolerant behind :=
  List.foldlM_append

theorem walk_distributes (segments : List Segment) : Distributes (walk true segments) := by
  induction segments with
  | nil => exact Distributes.ok
  | cons segment rest ih =>
      have goesOn := segment.resolve_distributes.andThen ih
      simpa only [← walk_cons] using goesOn

end Segment

namespace Query

theorem resolve_eq_walk (query : Query) (tolerant : Bool) (root : Value) :
    query.resolve tolerant root = Segment.walk tolerant query.segments [root] :=
  rfl

theorem resolve_joined {first second joined : Query}
    (segments : joined.segments = first.segments ++ second.segments) (root : Value)
    (found : List Value) :
    joined.resolve true root = .ok found ↔
      ∃ middle parts, first.resolve true root = .ok middle ∧
        List.Forall₂ (fun input part => second.resolve true input = .ok part) middle parts ∧
        parts.flatten = found := by
  have goesOn := (Segment.walk_distributes second.segments).each
  rw [resolve_eq_walk, segments, Segment.walk_append, bind_eq_ok]
  constructor
  · rintro ⟨middle, ran, ranOn⟩
    obtain ⟨parts, ranEach, whole⟩ := (goesOn middle found).mp ranOn
    exact ⟨middle, parts, ran, ranEach, whole⟩
  · rintro ⟨middle, parts, ran, ranEach, whole⟩
    exact ⟨middle, ran, (goesOn middle found).mpr ⟨parts, ranEach, whole⟩⟩

theorem SegmentsText.append {text rest : List Char} {segments others : List Segment}
    (front : SegmentsText text segments) (behind : SegmentsText rest others) :
    SegmentsText (text ++ rest) (segments ++ others) := by
  induction front with
  | nil => exact behind
  | cons isSegment _ ih =>
      rw [List.append_assoc]
      exact .cons isSegment ih

theorem compile_rooted_iff (text : String) (query : Query) :
    compile ("$" ++ text) = .ok query ↔
      query.text = "$" ++ text ∧ SegmentsText text.toList query.segments := by
  have whole : ("$" ++ text).toList = '$' :: text.toList := String.toList_append
  simp [compile_eq_ok_iff, QueryText, whole]

theorem compile_dollar : compile "$" = .ok ⟨"$", []⟩ :=
  (compile_rooted_iff "" _).mpr ⟨rfl, .nil⟩

theorem segments_ne_nil {text : String} {query : Query}
    (compiled : compile ("$" ++ text) = .ok query) (some : text ≠ "") : query.segments ≠ [] := by
  intro nothing
  have spelled := ((compile_rooted_iff text query).mp compiled).2
  rw [nothing] at spelled
  -- the characters have to be a variable for the cases of the spelling
  generalize whole : text.toList = cs at spelled
  cases spelled
  exact some (String.toList_eq_nil_iff.mp whole)

theorem compile_joined {a b : String} {first second : Query}
    (compiled : compile ("$" ++ a) = .ok first) (compiledToo : compile ("$" ++ b) = .ok second) :
    compile ("$" ++ a ++ b) = .ok ⟨"$" ++ a ++ b, first.segments ++ second.segments⟩ := by
  have front := ((compile_rooted_iff a first).mp compiled).2
  have behind := ((compile_rooted_iff b second).mp compiledToo).2
  rw [String.append_assoc, compile_rooted_iff, String.toList_append]
  exact ⟨rfl, front.append behind⟩

/-- Texts of queries can be put one behind the other. The whole has the segments of both, and it
resolves, with tolerance, where the second does on every match of the first; it finds the matches of
the second, for one match of the first after the other. -/
theorem queries_compose {a b : String} {first second : Query}
    (compiled : compile ("$" ++ a) = .ok first) (compiledToo : compile ("$" ++ b) = .ok second) :
    ∃ joined, compile ("$" ++ a ++ b) = .ok joined ∧
      joined.segments = first.segments ++ second.segments ∧
      ∀ root,
        ((∃ found, joined.resolve true root = .ok found) ↔
          ∃ middle, first.resolve true root = .ok middle ∧
            ∀ input ∈ middle, ∃ part, second.resolve true input = .ok part) ∧
        ∀ middle parts, first.resolve true root = .ok middle →
          List.Forall₂ (fun input part => second.resolve true input = .ok part) middle parts →
          joined.resolve true root = .ok parts.flatten := by
  refine ⟨_, compile_joined compiled compiledToo, rfl, fun root => ⟨?_, ?_⟩⟩
  · constructor
    · rintro ⟨found, ran⟩
      obtain ⟨middle, parts, ranFirst, ranEach, _⟩ := (resolve_joined rfl root found).mp ran
      exact ⟨middle, ranFirst, forall₂_exists.mp ⟨parts, ranEach⟩⟩
    · rintro ⟨middle, ranFirst, succeeds⟩
      obtain ⟨parts, ranEach⟩ := forall₂_exists.mpr succeeds
      exact ⟨_, (resolve_joined rfl root _).mpr ⟨middle, parts, ranFirst, ranEach, rfl⟩⟩
  · intro middle parts ranFirst ranEach
    exact (resolve_joined rfl root _).mpr ⟨middle, parts, ranFirst, ranEach, rfl⟩

theorem queries_compose_repeated :
    let deep : Query := ⟨"$..*", [.descendant [.wildcard]]⟩
    let root : Value := .array [.array [.array [.null]]]
    compile ("$" ++ "..*") = .ok deep ∧
    deep.resolve true root = .ok [.array [.array [.null]], .array [.null], .null] ∧
    ∃ joined, compile ("$" ++ "..*" ++ "..*") = .ok joined ∧
      joined.resolve true root = .ok [.array [.null], .null, .null] := by
  intro deep root
  have compiled : compile ("$" ++ "..*") = .ok deep := by cbv
  have found : deep.resolve true root = .ok [.array [.array [.null]], .array [.null], .null] := rfl
  obtain ⟨joined, compiledToo, _, resolves⟩ := queries_compose compiled compiled
  refine ⟨compiled, found, joined, compiledToo, ?_⟩
  exact (resolves root).2 _ [[.array [.null], .null], [.null], []] found
    (.cons rfl (.cons rfl (.cons rfl .nil)))

end Query

end Stencil
