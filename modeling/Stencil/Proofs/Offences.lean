import Mathlib
import Stencil.Proofs.Outcome
import Stencil.Proofs.Parsing
import Stencil.Proofs.Tokens
import Stencil.Template.Basic

/-! What makes a template fail to compile: every construct has faults of its own, whatever is inside
it, and compiling reports the first fault of the first construct that has any. -/

namespace Stencil

open Source (Expr Position Lexeme Derives Separated Enclosed Field)

namespace Source

namespace Expr

mutual

/-- An expression and everything inside it, in the order of the source. Fields that a later one
replaces are there as well. -/
def parts : Expr → List Expr
  | null => [null]
  | bool b => [bool b]
  | number x => [number x]
  | string s => [string s]
  | array items => array items :: partsItems items
  | object fields => object fields :: partsFields fields
  | extractor query position => [extractor query position]
  | generator query template position => generator query template position :: template.parts
  | call name args position => call name args position :: partsItems args
termination_by structural expr => expr

def partsItems : List Expr → List Expr
  | [] => []
  | expr :: rest => expr.parts ++ partsItems rest
termination_by structural exprs => exprs

def partsFields : List (String × Annotated Expr) → List Expr
  | [] => []
  | (_, ⟨_, expr⟩) :: rest => expr.parts ++ partsFields rest
termination_by structural fields => fields

end

def position? : Expr → Option Position
  | extractor _ position => some position
  | generator _ _ position => some position
  | call _ _ position => some position
  | _ => none

def opening? : Expr → Option (Token × Position)
  | extractor query position => some (.query query, position)
  | generator _ _ position => some (.range, position)
  | call name _ position => some (.name name, position)
  | _ => none

theorem position?_eq (expr : Expr) : expr.position? = expr.opening?.map Prod.snd := by
  cases expr <;> rfl

end Expr

def placesOf (parts : List Expr) : List Position :=
  parts.filterMap Expr.position?

def openingsOf (parts : List Expr) : List (Token × Position) :=
  parts.filterMap Expr.opening?

theorem openingsOf_append (first second : List Expr) :
    openingsOf (first ++ second) = openingsOf first ++ openingsOf second :=
  List.filterMap_append

theorem placesOf_eq (parts : List Expr) : placesOf parts = (openingsOf parts).map Prod.snd := by
  rw [placesOf, openingsOf, List.map_filterMap]
  exact List.filterMap_congr fun part _ => part.position?_eq

def placed (lexemes : List Lexeme) : List (Token × Position) :=
  lexemes.map fun lexeme => (lexeme.token, lexeme.start)

theorem Field.content {Value : List Lexeme → Expr → Prop} {used : List Lexeme}
    {field : String × Annotated Expr} (read : Field Value used field) :
    ∃ front back, used = front ++ back ∧ Value back field.2.content := by
  cases read with
  | plain _ _ value => exact ⟨[_, _], _, rfl, value⟩
  | labelled _ _ _ _ value => exact ⟨[_, _, _, _], _, rfl, value⟩

theorem Enclosed.openings_sublist {α : Type} {Item : List Lexeme → α → Prop} {close : Token}
    {trailingComma : Bool} {used : List Lexeme} {items : List α}
    {openings : List (Token × Position)}
    (enclosed : Enclosed Item close trailingComma used items) (nothing : items = [] → openings = [])
    (each : ∀ {front}, Separated Item front items → openings.Sublist (placed front)) :
    openings.Sublist (placed used) := by
  cases enclosed with
  | empty _ =>
      rw [nothing rfl]
      exact List.nil_sublist _
  | items separated _ =>
      rw [placed, List.map_append]
      exact (each separated).trans (List.sublist_append_left _ _)
  | trailing separated _ _ _ =>
      rw [placed, List.map_append]
      exact (each separated).trans (List.sublist_append_left _ _)

mutual

theorem openings_sublist : ∀ (expr : Expr) {used : List Lexeme}, Derives used expr →
    (openingsOf expr.parts).Sublist (placed used)
  | .null, _, _ => List.nil_sublist _
  | .bool _, _, _ => List.nil_sublist _
  | .number _, _, _ => List.nil_sublist _
  | .string _, _, _ => List.nil_sublist _
  | .extractor _ _, _, derives => by
      cases derives with
      | extractor token =>
          rw [placed, List.map_singleton, token]
          exact List.Sublist.refl _
  | .array items, _, derives => by
      cases derives with
      | array _ enclosed =>
          exact (enclosed.openings_sublist (by rintro rfl; rfl) (itemOpenings_sublist items)).cons _
  | .object fields, _, derives => by
      cases derives with
      | object _ enclosed =>
          exact (enclosed.openings_sublist (by rintro rfl; rfl)
            (fieldOpenings_sublist fields)).cons _
  | .generator _ template _, _, derives => by
      cases derives with
      | generator token _ _ inner _ =>
          rw [placed, List.map_cons, List.map_cons, List.map_cons, List.map_append, token]
          refine List.Sublist.cons_cons _ (.cons _ (.cons _ ?_))
          exact (openings_sublist template inner).trans (List.sublist_append_left _ _)
  | .call _ args _, _, derives => by
      cases derives with
      | call token _ enclosed =>
          rw [placed, List.map_cons, List.map_cons, token]
          have inside := enclosed.openings_sublist (by rintro rfl; rfl) (itemOpenings_sublist args)
          exact (inside.cons _).cons_cons _

theorem itemOpenings_sublist : ∀ (items : List Expr) {used : List Lexeme},
    Separated Derives used items → (openingsOf (Expr.partsItems items)).Sublist (placed used)
  | [], _, separated => nomatch separated
  | item :: rest, _, separated => by
      cases separated with
      | one first =>
          rw [Expr.partsItems, Expr.partsItems, List.append_nil]
          exact openings_sublist item first
      | more first _ more =>
          rw [Expr.partsItems, openingsOf_append, placed, List.map_append, List.map_cons]
          exact (openings_sublist item first).append ((itemOpenings_sublist rest more).cons _)

theorem fieldOpenings_sublist : ∀ (fields : List (String × Annotated Expr)) {used : List Lexeme},
    Separated (Field Derives) used fields →
      (openingsOf (Expr.partsFields fields)).Sublist (placed used)
  | [], _, separated => nomatch separated
  | (name, ⟨label, expr⟩) :: rest, _, separated => by
      have one : ∀ {used}, Field Derives used (name, ⟨label, expr⟩) →
          (openingsOf expr.parts).Sublist (placed used) := by
        intro used read
        obtain ⟨front, back, rfl, value⟩ := read.content
        rw [placed, List.map_append]
        exact (openings_sublist expr value).trans (List.sublist_append_right _ _)
      cases separated with
      | one first =>
          rw [Expr.partsFields, Expr.partsFields, List.append_nil]
          exact one first
      | more first _ more =>
          rw [Expr.partsFields, openingsOf_append, placed, List.map_append, List.map_cons]
          exact (one first).append ((fieldOpenings_sublist rest more).cons _)

end

theorem places_sublist {expr : Expr} {used : List Lexeme} (derives : Derives used expr) :
    (placesOf expr.parts).Sublist (used.map (·.start)) := by
  have starts : used.map (·.start) = (placed used).map Prod.snd := by
    rw [placed, List.map_map]
    rfl
  rw [placesOf_eq, starts]
  exact (openings_sublist expr derives).map _

theorem starts_increasing (source : String) :
    ((lex source).lexemes.map (·.start)).Pairwise (·.offset < ·.offset) := by
  have tiles := lexFrom_tiles ⟨.start, source.toList⟩
  refine List.pairwise_map.mpr (tiles.ordered.imp_of_mem ?_)
  intro first second member _ behind
  have some := List.length_pos_iff.mpr (tiles.covers first member).1
  omega

/-- The constructs of a template start behind one another, each of them in front of what is inside
it. -/
theorem parts_increasing {source : String} {expr : Expr} (parsed : parse source = .ok expr) :
    expr.parts.Pairwise fun first second => ∀ place ∈ first.position?, ∀ other ∈ second.position?,
      place.offset < other.offset := by
  have derives := ((lexed_parse_iff _ _).mp parsed).2.1
  have places := (starts_increasing source).sublist (places_sublist derives)
  exact List.pairwise_filterMap.mp places

end Source

namespace Functions

variable (functions : Functions)

/-- Everything that is wrong with one construct, whatever is inside it, in the order in which faults
are reported. -/
def faults : Expr → List CompileError
  | .call name args position =>
    match Members.get? name functions with
    | none => [.unknownFunction name position]
    | some (.value _) => [.notCallable name position]
    | some (.function function) =>
      (if function.signature.isWellFormed then [] else [.invalidSignature name position]) ++
        if function.signature.acceptsArity args.length then []
        else [.arity name function.signature args.length position]
  | .extractor text position | .generator text _ position =>
    match Query.compile text with
    | .ok _ => []
    | .error error => [.query position error]
  | _ => []

variable {functions}

theorem position_of_faults {part : Expr} {error : CompileError}
    (fault : error ∈ functions.faults part) : part.position? = some error.position := by
  unfold faults at fault
  split at fault
  · split at fault
    · cases List.mem_singleton.mp fault
      rfl
    · cases List.mem_singleton.mp fault
      rfl
    · rcases List.mem_append.mp fault with signature | arity
      · split at signature
        · cases signature
        · cases List.mem_singleton.mp signature
          rfl
      · split at arity
        · cases arity
        · cases List.mem_singleton.mp arity
          rfl
  · split at fault
    · cases fault
    · cases List.mem_singleton.mp fault
      rfl
  · split at fault
    · cases fault
    · cases List.mem_singleton.mp fault
      rfl
  · cases fault

/-- How a run over some parts ends: well where none of them has a fault, and otherwise with the
first fault of the first of them that has any. -/
inductive Checks {α : Type} (functions : Functions) : List Expr → Except CompileError α → Prop
  | clean {parts value} : (∀ part ∈ parts, functions.faults part = []) →
      Checks functions parts (.ok value)
  | faulty {before part after error} : (∀ part ∈ before, functions.faults part = []) →
      (functions.faults part).head? = some error →
      Checks functions (before ++ part :: after) (.error error)

section

variable {α β : Type} {parts others : List Expr} {first : Except CompileError α}

theorem Checks.bind {next : α → Except CompileError β} (checks : functions.Checks parts first)
    (each : ∀ value, functions.Checks others (next value)) :
    functions.Checks (parts ++ others) (first >>= next) := by
  cases checks with
  | @faulty before part after error clean fault =>
      rw [List.append_assoc]
      exact .faulty clean fault
  | @clean _ value clean =>
      change functions.Checks (parts ++ others) (next value)
      generalize next value = later, each value = rest
      cases rest with
      | clean more => exact .clean fun part member =>
          (List.mem_append.mp member).elim (clean part) (more part)
      | faulty more fault =>
          rw [← List.append_assoc]
          exact .faulty (fun part member =>
            (List.mem_append.mp member).elim (clean part) (more part)) fault

theorem Checks.map (checks : functions.Checks parts first) (f : α → β) :
    functions.Checks parts (first.map f) := by
  cases checks with
  | clean clean => exact .clean clean
  | faulty clean fault => exact .faulty clean fault

theorem Checks.cons (checks : functions.Checks parts first) {part : Expr}
    (none : functions.faults part = []) : functions.Checks (part :: parts) first := by
  cases checks with
  | clean clean => exact .clean (List.forall_mem_cons.mpr ⟨none, clean⟩)
  | faulty clean fault =>
      rw [← List.cons_append]
      exact .faulty (List.forall_mem_cons.mpr ⟨none, clean⟩) fault

theorem Checks.single {part : Expr} {value : α} (none : functions.faults part = []) :
    functions.Checks [part] (.ok value) :=
  .clean (List.forall_mem_singleton.mpr none)

theorem Checks.fault {part : Expr} {error : CompileError}
    (fault : (functions.faults part).head? = some error) :
    functions.Checks [part] (.error error : Except CompileError α) :=
  @Checks.faulty α functions [] part [] error (List.forall_mem_nil _) fault

end

theorem compileQuery_checks {part : Expr} (text : String) (position : Position)
    (here : functions.faults part = match Query.compile text with
      | .ok _ => []
      | .error error => [.query position error]) :
    functions.Checks [part] (compileQuery text position) := by
  unfold compileQuery
  cases compiled : Query.compile text with
  | ok query => exact .single (by rw [here, compiled])
  | error error => exact .fault (by rw [here, compiled]; rfl)

theorem forCall_checks (name : String) (args : List Expr) (position : Position) :
    functions.Checks [.call name args position]
      (functions.forCall name args.length position) := by
  unfold forCall
  split
  next unbound => exact .fault (by simp [faults, unbound])
  next value bound => exact .fault (by simp [faults, bound])
  next function bound =>
    by_cases wellFormed : function.signature.isWellFormed = true
    · by_cases arity : function.signature.acceptsArity args.length = true
      · simp only [wellFormed, arity, Bool.not_true, Bool.false_eq_true, if_false]
        exact .single (by simp [faults, bound, wellFormed, arity])
      · simp only [wellFormed, arity, Bool.not_true, Bool.not_false, Bool.false_eq_true, if_false,
          if_true]
        exact .fault (by simp [faults, bound, wellFormed, arity])
    · simp only [wellFormed, Bool.not_false, if_true]
      exact .fault (by simp [faults, bound, wellFormed])

end Functions

namespace Node

variable {functions : Functions}

mutual

theorem compile_checks : ∀ expr : Expr, functions.Checks expr.parts (compile functions expr)
  | .null => .single rfl
  | .bool _ => .single rfl
  | .number _ => .single rfl
  | .string _ => .single rfl
  | .array items => ((compileItems_checks items).map _).cons rfl
  | .object fields => ((compileFields_checks fields).map _).cons rfl
  | .extractor text position => (Functions.compileQuery_checks text position rfl).map _
  | .generator text template position =>
      (Functions.compileQuery_checks text position rfl).bind fun _ =>
        (compile_checks template).map _
  | .call name args position =>
      (Functions.forCall_checks name args position).bind fun _ => (compileItems_checks args).map _

theorem compileItems_checks : ∀ exprs : List Expr,
    functions.Checks (Expr.partsItems exprs) (compileItems functions exprs)
  | [] => .clean (List.forall_mem_nil _)
  | expr :: rest => (compile_checks expr).bind fun _ => (compileItems_checks rest).map _

theorem compileFields_checks : ∀ fields : List (String × Annotated Expr),
    functions.Checks (Expr.partsFields fields) (compileFields functions fields)
  | [] => .clean (List.forall_mem_nil _)
  | (_, ⟨_, expr⟩) :: rest => (compile_checks expr).bind fun _ => (compileFields_checks rest).map _

end

end Node

namespace Template

theorem compile_parsed {functions : Functions} {source : String} {expr : Expr}
    (parsed : Source.parse source = .ok expr) :
    compile functions source = (Node.compile functions expr).map ofNode := by
  unfold compile
  rw [parsed]
  rfl

/-- Where a template parses, compiling it fails exactly if some construct in it has a fault. The
error is the first fault of the construct with the smallest offset among those that have any. -/
theorem compile_first_fault (functions : Functions) {source : String} {expr : Expr}
    (parsed : Source.parse source = .ok expr) :
    ((∃ template, compile functions source = .ok template) ↔
      ∀ part ∈ expr.parts, functions.faults part = []) ∧
    ∀ error, compile functions source = .error error →
      ∃ before part after, expr.parts = before ++ part :: after ∧
        (functions.faults part).head? = some error ∧ part.position? = some error.position ∧
        ∀ other ∈ before ++ after, functions.faults other ≠ [] →
          ∃ place, other.position? = some place ∧ error.position.offset < place.offset := by
  have checks : functions.Checks expr.parts (compile functions source) := by
    unfold compile
    rw [parsed]
    exact (Node.compile_checks expr).map ofNode
  have increasing := Source.parts_increasing parsed
  generalize expr.parts = parts, compile functions source = run at *
  cases checks with
  | clean clean => exact ⟨⟨fun _ => clean, fun _ => ⟨_, rfl⟩⟩, fun error failed => by cases failed⟩
  | @faulty before part after error clean fault =>
      refine ⟨⟨fun ⟨_, same⟩ => (by cases same), fun all => ?_⟩, ?_⟩
      · rw [all part (by simp)] at fault
        cases fault
      · rintro _ ⟨⟩
        have place := Functions.position_of_faults (List.mem_of_head? fault)
        refine ⟨before, part, after, rfl, fault, place, fun other member faulty => ?_⟩
        have later := (List.mem_append.mp member).resolve_left fun earlier =>
          faulty (clean other earlier)
        obtain ⟨first, rest, some⟩ := List.exists_cons_of_ne_nil faulty
        have there := Functions.position_of_faults
          (some ▸ List.mem_cons_self : first ∈ functions.faults other)
        have behind := List.rel_of_pairwise_cons (List.pairwise_append.mp increasing).2.1 later
        exact ⟨_, there, behind _ place _ there⟩

theorem compile_first_fault_replaced :
    (∃ expr, Source.parse "\x7b\"a\": f(g()), \"a\": null\x7d" = .ok expr) ∧
    compile [] "\x7b\"a\": f(g()), \"a\": null\x7d" = .error (.unknownFunction "f" ⟨1, 7, 6⟩) := by
  have parsed : Source.parse "\x7b\"a\": f(g()), \"a\": null\x7d" =
      .ok (.object [("a", ⟨none, .call "f" [.call "g" [] ⟨1, 9, 8⟩] ⟨1, 7, 6⟩⟩),
        ("a", ⟨none, .null⟩)]) := by cbv
  refine ⟨⟨_, parsed⟩, ?_⟩
  obtain ⟨clean, first⟩ := compile_first_fault [] parsed
  cases run : compile [] "\x7b\"a\": f(g()), \"a\": null\x7d" with
  | ok template =>
      have none := clean.mp ⟨template, run⟩ (.call "g" [] ⟨1, 9, 8⟩)
        (by simp [Expr.parts, Expr.partsFields, Expr.partsItems])
      cases none
  | error error =>
      obtain ⟨before, part, after, cut, fault, _, least⟩ := first error run
      rcases before with _ | ⟨whole, _ | ⟨outer, before⟩⟩
      · cases cut
        cases fault
      · cases cut
        cases fault
        rfl
      · simp only [Expr.parts, Expr.partsFields, Expr.partsItems, List.append_nil, List.cons_append,
          List.nil_append, List.cons.injEq] at cut
        obtain ⟨_, rfl, rest⟩ := cut
        obtain ⟨_, ⟨⟩, less⟩ := least (.call "f" [.call "g" [] ⟨1, 9, 8⟩] ⟨1, 7, 6⟩) (by simp)
          (by simp [Functions.faults, Members.get?])
        have inside : part ∈ [.call "g" [] ⟨1, 9, 8⟩, .null] := rest ▸ by simp
        rcases List.mem_pair.mp inside with rfl | rfl
        · cases fault
          exact absurd less (by decide)
        · cases fault

end Template

end Stencil
