import Stencil.Query.Grammar
import Stencil.Source.Parser
import Stencil.Template.Node

/-! Compiling expressions. Every query is read and every call is checked against the signature of
its function, so that only the input can make a compiled template fail. The first fault of the
source is reported. -/

namespace Stencil

open Source (Expr Position ParseError)

inductive CompileError where
  | parse (error : ParseError)
  | query (position : Position) (error : Query.SyntaxError)
  | unknownFunction (name : String) (position : Position)
  | notCallable (name : String) (position : Position)
  | invalidSignature (name : String) (position : Position)
  | arity (name : String) (signature : Signature) (found : Nat) (position : Position)
deriving DecidableEq

namespace CompileError

def position : CompileError → Position
  | parse error => error.position
  | query position _ => position
  | unknownFunction _ position => position
  | notCallable _ position => position
  | invalidSignature _ position => position
  | arity _ _ _ position => position

def message : CompileError → String
  | parse error => "parse error: " ++ error.message
  | query position error =>
    s!"invalid query '{error.query}' at {position.describe}: {error.message}"
  | unknownFunction name position => s!"no such function: {name} (at {position.describe})"
  | notCallable name position => s!"{name} is not a function (at {position.describe})"
  | invalidSignature name position =>
    s!"{name} has a signature that no call can satisfy (at {position.describe})"
  | arity name signature found position =>
    s!"{name} expects {signature.describeArity} argument(s), found {found} " ++
      s!"(at {position.describe})"

end CompileError

def compileQuery (text : String) (position : Position) : Except CompileError Query :=
  (Query.compile text).mapError (.query position)

def Functions.forCall (functions : Functions) (name : String) (count : Nat) (position : Position) :
    Except CompileError Function :=
  match Members.get? name functions with
  | none => .error (.unknownFunction name position)
  | some (.value _) => .error (.notCallable name position)
  | some (.function function) =>
    if !function.signature.isWellFormed then .error (.invalidSignature name position)
    else if !function.signature.acceptsArity count then
      .error (.arity name function.signature count position)
    else .ok function

namespace Node

mutual

def compile (functions : Functions) : Expr → Except CompileError Node
  | .null => .ok (constant .null)
  | .bool b => .ok (constant (.bool b))
  | .number x => .ok (constant (.number x))
  | .string s => .ok (constant (.string s))
  | .array items => (compileItems functions items).map array
  | .object fields => (compileFields functions fields).map fun fields =>
    object (Members.ofList fields)
  | .extractor text position => (compileQuery text position).map query
  | .generator text template position => do
    let range ← compileQuery text position
    return generator range (← compile functions template)
  | .call name args position => do
    let function ← functions.forCall name args.length position
    return call name function (← compileItems functions args)
termination_by structural expr => expr

def compileItems (functions : Functions) : List Expr → Except CompileError (List Node)
  | [] => .ok []
  | expr :: rest => do
    let node ← compile functions expr
    return node :: (← compileItems functions rest)
termination_by structural exprs => exprs

def compileFields (functions : Functions) :
    List (String × Annotated Expr) → Except CompileError (List (String × Annotated Node))
  | [] => .ok []
  | (name, ⟨label, expr⟩) :: rest => do
    let node ← compile functions expr
    return (name, ⟨label, node⟩) :: (← compileFields functions rest)
termination_by structural fields => fields

end

end Node

end Stencil
