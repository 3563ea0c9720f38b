import Stencil.Proofs.Calls
import Stencil.Proofs.Offences
import Stencil.Proofs.Placement

/-! Labels and places decide nothing. Expressions that differ only in these are compiled to
templates that render the same, or are rejected for the same reason at the same construct. -/

namespace Stencil

namespace Source.Expr

mutual

def bare : Expr → Expr
  | null => null
  | bool b => bool b
  | number x => number x
  | string s => string s
  | array items => array (bareItems items)
  | object fields => object (bareFields fields)
  | extractor query _ => extractor query .start
  | generator query template _ => generator query template.bare .start
  | call name args _ => call name (bareItems args) .start
termination_by structural expr => expr

def bareItems : List Expr → List Expr
  | [] => []
  | expr :: rest => expr.bare :: bareItems rest
termination_by structural exprs => exprs

def bareFields : List (String × Annotated Expr) → List (String × Annotated Expr)
  | [] => []
  | (name, ⟨_, expr⟩) :: rest => (name, ⟨none, expr.bare⟩) :: bareFields rest
termination_by structural fields => fields

end

def bareField : String × Annotated Expr → String × Annotated Expr
  | (name, ⟨_, expr⟩) => (name, ⟨none, expr.bare⟩)

theorem bareItems_eq (items : List Expr) : bareItems items = items.map bare := by
  induction items with
  | nil => rfl
  | cons item rest ih => rw [bareItems, List.map_cons, ih]

theorem bareFields_eq (fields : List (String × Annotated Expr)) :
    bareFields fields = fields.map bareField := by
  induction fields with
  | nil => rfl
  | cons field rest ih => rw [bareFields, List.map_cons, ih]; rfl

theorem length_bareItems (items : List Expr) : (bareItems items).length = items.length := by
  rw [bareItems_eq, List.length_map]

mutual

theorem bare_unplaced : ∀ expr : Expr, expr.unplaced.bare = expr.bare
  | null => rfl
  | bool _ => rfl
  | number _ => rfl
  | string _ => rfl
  | array items => congrArg array (bareItems_unplaced items)
  | object fields => congrArg object (bareFields_unplaced fields)
  | extractor _ _ => rfl
  | generator query template _ =>
      congrArg (generator query · .start) (bare_unplaced template)
  | call name args _ => congrArg (call name · .start) (bareItems_unplaced args)

theorem bareItems_unplaced : ∀ items : List Expr,
    bareItems (unplacedItems items) = bareItems items
  | [] => rfl
  | expr :: rest => by
      rw [unplacedItems, bareItems, bareItems, bare_unplaced expr, bareItems_unplaced rest]

theorem bareFields_unplaced : ∀ fields : List (String × Annotated Expr),
    bareFields (unplacedFields fields) = bareFields fields
  | [] => rfl
  | (name, ⟨label, expr⟩) :: rest => by
      rw [unplacedFields, bareFields, bareFields, bare_unplaced expr, bareFields_unplaced rest]

end

mutual

theorem depth_bare : ∀ expr : Expr, expr.bare.depth = expr.depth
  | null => rfl
  | bool _ => rfl
  | number _ => rfl
  | string _ => rfl
  | array items => congrArg (· + 1) (depthItems_bare items)
  | object fields => congrArg (· + 1) (depthFields_bare fields)
  | extractor _ _ => rfl
  | generator _ template _ => congrArg (· + 1) (depth_bare template)
  | call _ args _ => congrArg (· + 1) (depthItems_bare args)

theorem depthItems_bare : ∀ items : List Expr, depthItems (bareItems items) = depthItems items
  | [] => rfl
  | expr :: rest => by
      rw [bareItems, depthItems, depthItems, depth_bare expr, depthItems_bare rest]

theorem depthFields_bare : ∀ fields : List (String × Annotated Expr),
    depthFields (bareFields fields) = depthFields fields
  | [] => rfl
  | (_, ⟨_, expr⟩) :: rest => by
      rw [bareFields, depthFields, depthFields, depth_bare expr, depthFields_bare rest]

end

mutual

theorem parts_bare : ∀ expr : Expr, expr.bare.parts = expr.parts.map bare
  | null => rfl
  | bool _ => rfl
  | number _ => rfl
  | string _ => rfl
  | array items => congrArg (_ :: ·) (partsItems_bare items)
  | object fields => congrArg (_ :: ·) (partsFields_bare fields)
  | extractor _ _ => rfl
  | generator _ template _ => congrArg (_ :: ·) (parts_bare template)
  | call _ args _ => congrArg (_ :: ·) (partsItems_bare args)

theorem partsItems_bare : ∀ items : List Expr,
    partsItems (bareItems items) = (partsItems items).map bare
  | [] => rfl
  | expr :: rest => by
      rw [bareItems, partsItems, partsItems, List.map_append, parts_bare expr,
        partsItems_bare rest]

theorem partsFields_bare : ∀ fields : List (String × Annotated Expr),
    partsFields (bareFields fields) = (partsFields fields).map bare
  | [] => rfl
  | (_, ⟨_, expr⟩) :: rest => by
      rw [bareFields, partsFields, partsFields, List.map_append, parts_bare expr,
        partsFields_bare rest]

end

end Source.Expr

open Source (Expr Position)

/-- Runs that end alike: with results that a view cannot tell apart, or with the same error but for
its place. -/
inductive Alike {α β : Type} (view : α → β) : Except CompileError α → Except CompileError α → Prop
  | ok {value other} : view value = view other → Alike view (.ok value) (.ok other)
  | error {error other} : error.unplaced = other.unplaced → Alike view (.error error) (.error other)

namespace Alike

variable {α β γ δ : Type} {view : α → β} {look : γ → δ} {first second third : Except CompileError α}

theorem of_unplaced
    (same : first.mapError CompileError.unplaced = second.mapError CompileError.unplaced) :
    Alike id first second := by
  cases first with
  | error reason =>
      cases second with
      | error other => exact .error (Except.error.inj same)
      | ok value => cases same
  | ok value =>
      cases second with
      | error reason => cases same
      | ok other => exact .ok (Except.ok.inj same)

theorem symm (alike : Alike view first second) : Alike view second first := by
  cases alike with
  | ok same => exact .ok same.symm
  | error same => exact .error same.symm

theorem trans (alike : Alike view first second) (more : Alike view second third) :
    Alike view first third := by
  cases alike with
  | ok same =>
      cases more with
      | ok again => exact .ok (same.trans again)
  | error same =>
      cases more with
      | error again => exact .error (same.trans again)

theorem bind (alike : Alike view first second) {next later : α → Except CompileError γ}
    (each : ∀ value other, view value = view other → Alike look (next value) (later other)) :
    Alike look (first >>= next) (second >>= later) := by
  cases alike with
  | ok same => exact each _ _ same
  | error same => exact .error same

theorem map (alike : Alike view first second) {f : α → γ}
    (each : ∀ value other, view value = view other → look (f value) = look (f other)) :
    Alike look (first.map f) (second.map f) := by
  cases alike with
  | ok same => exact .ok (each _ _ same)
  | error same => exact .error same

end Alike

namespace Node

mutual

def unlabelled : Node → Node
  | constant value => constant value
  | object fields => object (unlabelledFields fields)
  | array items => array (unlabelledItems items)
  | query q => query q
  | generator range template => generator range template.unlabelled
  | call name function args => call name function (unlabelledItems args)
termination_by structural node => node

def unlabelledItems : List Node → List Node
  | [] => []
  | node :: rest => node.unlabelled :: unlabelledItems rest
termination_by structural nodes => nodes

def unlabelledFields : List (String × Annotated Node) → List (String × Annotated Node)
  | [] => []
  | (name, ⟨_, node⟩) :: rest => (name, ⟨none, node.unlabelled⟩) :: unlabelledFields rest
termination_by structural fields => fields

end

theorem unlabelledFields_ofList (fields : List (String × Annotated Node)) :
    unlabelledFields (Members.ofList fields) = Members.ofList (unlabelledFields fields) := by
  have mapped : ∀ fields : List (String × Annotated Node), unlabelledFields fields =
      Members.mapContents (fun field => ⟨none, field.content.unlabelled⟩) fields := by
    intro fields
    induction fields with
    | nil => rfl
    | cons field rest ih => rw [unlabelledFields, ih]; rfl
  rw [mapped, mapped, Members.ofList_mapContents]

mutual

theorem evaluate_unlabelled (policy : MissingKeyPolicy) : ∀ (node : Node) (input : Value),
    node.unlabelled.evaluate policy input = node.evaluate policy input
  | constant _, _ => rfl
  | object fields, input => by
      rw [unlabelled, evaluate, evaluate, evaluateFields_unlabelled policy fields input]
  | array items, input => by
      rw [unlabelled, evaluate, evaluate, evaluateItems_unlabelled policy items input]
  | query _, _ => rfl
  | generator range template, input => by
      have each : evaluate policy template.unlabelled = evaluate policy template :=
        funext fun value => evaluate_unlabelled policy template value
      rw [unlabelled, evaluate, evaluate, each]
  | call name function args, input => by
      rw [unlabelled, evaluate, evaluate,
        evaluateArgs_unlabelled policy name function.signature 0 args input]

theorem evaluateItems_unlabelled (policy : MissingKeyPolicy) :
    ∀ (nodes : List Node) (input : Value),
      evaluateItems policy (unlabelledItems nodes) input = evaluateItems policy nodes input
  | [], _ => rfl
  | node :: rest, input => by
      rw [unlabelledItems, evaluateItems, evaluateItems, evaluate_unlabelled policy node input,
        evaluateItems_unlabelled policy rest input]

theorem evaluateFields_unlabelled (policy : MissingKeyPolicy) :
    ∀ (fields : List (String × Annotated Node)) (input : Value),
      evaluateFields policy (unlabelledFields fields) input = evaluateFields policy fields input
  | [], _ => rfl
  | (_, ⟨_, node⟩) :: rest, input => by
      rw [unlabelledFields, evaluateFields, evaluateFields, evaluate_unlabelled policy node input,
        evaluateFields_unlabelled policy rest input]

theorem evaluateArgs_unlabelled (policy : MissingKeyPolicy) (name : String)
    (signature : Signature) : ∀ (index : Nat) (nodes : List Node) (input : Value),
      evaluateArgs policy name signature index (unlabelledItems nodes) input =
        evaluateArgs policy name signature index nodes input
  | _, [], _ => rfl
  | index, node :: rest, input => by
      rw [unlabelledItems, evaluateArgs, evaluateArgs, evaluate_unlabelled policy node input]
      simp only [evaluateArgs_unlabelled policy name signature (index + 1) rest input]

end

mutual

theorem compile_bare (functions : Functions) : ∀ expr : Expr,
    Alike unlabelled (compile functions expr.bare) (compile functions expr)
  | .null => .ok rfl
  | .bool _ => .ok rfl
  | .number _ => .ok rfl
  | .string _ => .ok rfl
  | .array items => (compileItems_bare functions items).map fun _ _ => congrArg array
  | .object fields => by
      apply (compileFields_bare functions fields).map
      intro nodes others same
      rw [unlabelled, unlabelled, unlabelledFields_ofList, unlabelledFields_ofList, same]
  | .extractor text position =>
      (Alike.of_unplaced (compileQuery_unplaced text .start position)).map fun _ _ => congrArg query
  | .generator text template position => by
      apply (Alike.of_unplaced (compileQuery_unplaced text .start position)).bind
      rintro range _ rfl
      apply (compile_bare functions template).bind
      intro node other same
      exact .ok (congrArg (generator range) same)
  | .call name args position => by
      rw [Expr.bare, compile, compile, Expr.length_bareItems]
      have offered := functions.forCall_unplaced name args.length .start position
      apply (Alike.of_unplaced offered).bind
      rintro function _ rfl
      apply (compileItems_bare functions args).bind
      intro nodes others same
      exact .ok (congrArg (call name function) same)

theorem compileItems_bare (functions : Functions) : ∀ exprs : List Expr,
    Alike unlabelledItems (compileItems functions (Expr.bareItems exprs))
      (compileItems functions exprs)
  | [] => .ok rfl
  | expr :: rest => by
      apply (compile_bare functions expr).bind
      intro node other same
      apply (compileItems_bare functions rest).bind
      intro nodes others alike
      refine .ok ?_
      rw [unlabelledItems, unlabelledItems, same, alike]

theorem compileFields_bare (functions : Functions) : ∀ fields : List (String × Annotated Expr),
    Alike unlabelledFields (compileFields functions (Expr.bareFields fields))
      (compileFields functions fields)
  | [] => .ok rfl
  | (name, ⟨label, expr⟩) :: rest => by
      apply (compile_bare functions expr).bind
      intro node other same
      apply (compileFields_bare functions rest).bind
      intro nodes others alike
      refine .ok ?_
      rw [unlabelledFields, unlabelledFields, same, alike]

end

theorem compile_alike (functions : Functions) {expr twin : Expr} (same : twin.bare = expr.bare) :
    Alike unlabelled (compile functions twin) (compile functions expr) :=
  (compile_bare functions twin).symm.trans (same ▸ compile_bare functions expr)

end Node

namespace Functions

variable {functions : Functions}

theorem faults_bare (part : Expr) :
    functions.faults part.bare = (functions.faults part).map CompileError.unplaced := by
  cases part with
  | call name args position =>
      simp only [Expr.bare, faults, Expr.length_bareItems]
      split
      · rfl
      · rfl
      · split <;> split <;> rfl
  | extractor text position =>
      simp only [Expr.bare, faults]
      split <;> rfl
  | generator text template position =>
      simp only [Expr.bare, faults]
      split <;> rfl
  | _ => rfl

/-- How many parts there are in front of the first one that has a fault. -/
def firstFaulty (functions : Functions) (parts : List Expr) : Nat :=
  parts.findIdx fun part => !(functions.faults part).isEmpty

theorem Checks.reported {α : Type} {parts : List Expr} {error : CompileError}
    (checks : functions.Checks parts (.error error : Except CompileError α)) :
    ∃ part, parts[functions.firstFaulty (parts.map Expr.bare)]? = some part ∧
      part.position? = some error.position := by
  cases checks with
  | @faulty before part after _ clean fault =>
      have passed : (before.map Expr.bare).findIdx (fun part =>
          !(functions.faults part).isEmpty) = before.length := by
        rw [← List.length_map (f := Expr.bare), List.findIdx_eq_length, List.forall_mem_map]
        intro part member
        rw [faults_bare, clean part member]
        rfl
      have stopped : (!(functions.faults part.bare).isEmpty) = true := by
        rw [faults_bare]
        cases found : functions.faults part with
        | nil =>
            rw [found] at fault
            cases fault
        | cons first rest => rfl
      refine ⟨part, ?_, position_of_faults (List.mem_of_head? fault)⟩
      rw [firstFaulty, List.map_append, List.findIdx_append, passed, List.length_map,
        if_neg (Nat.lt_irrefl _), List.map_cons, List.findIdx_cons, stopped, cond_true,
        Nat.zero_add, List.getElem?_append_right (Nat.le_refl _), Nat.sub_self]
      rfl

theorem Checks.aligned {α β : Type} {parts twins : List Expr} {error twin : CompileError}
    (checks : functions.Checks parts (.error error : Except CompileError α))
    (again : functions.Checks twins (.error twin : Except CompileError β))
    (same : twins.map Expr.bare = parts.map Expr.bare) :
    ∃ (index : Nat) (part other : Expr), parts[index]? = some part ∧ twins[index]? = some other ∧
      other.bare = part.bare ∧ part.position? = some error.position ∧
      other.position? = some twin.position := by
  obtain ⟨part, found, place⟩ := checks.reported
  obtain ⟨other, foundToo, placeToo⟩ := again.reported
  rw [same] at foundToo
  refine ⟨_, part, other, found, foundToo, ?_, place, placeToo⟩
  have bare : (twins.map Expr.bare)[functions.firstFaulty (parts.map Expr.bare)]? =
      (parts.map Expr.bare)[functions.firstFaulty (parts.map Expr.bare)]? := by rw [same]
  rw [List.getElem?_map, List.getElem?_map, found, foundToo] at bare
  exact Option.some.inj bare

end Functions

namespace Node

/-- An expression that is not compiled is rejected as another one is that is the same but for labels
and places: for the same reason, at the same construct. -/
theorem compile_error_alike {functions : Functions} {expr twin : Expr} {error : CompileError}
    (same : twin.bare = expr.bare) (failed : compile functions expr = .error error) :
    ∃ other, compile functions twin = .error other ∧ other.unplaced = error.unplaced ∧
      ∃ (index : Nat) (part again : Expr), expr.parts[index]? = some part ∧
        twin.parts[index]? = some again ∧ again.bare = part.bare ∧
        part.position? = some error.position ∧ again.position? = some other.position := by
  have alike := compile_alike functions same
  have checks := @compile_checks functions expr
  have again := @compile_checks functions twin
  rw [failed] at alike checks
  generalize compile functions twin = outcome at alike again ⊢
  cases alike with
  | @error other _ unplaced =>
      refine ⟨other, rfl, unplaced, checks.aligned again ?_⟩
      rw [← Expr.parts_bare, ← Expr.parts_bare, same]

end Node

end Stencil
