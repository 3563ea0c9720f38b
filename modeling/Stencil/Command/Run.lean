import Stencil.Command.Arguments
import Stencil.Function.Standard
import Stencil.Json.Stream
import Stencil.Pattern.Replace
import Stencil.Template.Stream

/-! Running commands. What a command prints depends only on its arguments, the template file it names
and its standard input. -/

namespace Stencil

inductive CommandError where
  | compile (error : CompileError)
  | eval (error : EvalError)
  | render (error : RenderError)
  | json (fault : Json.Fault)
  | transfer (reason : String)
  | noInput

namespace CommandError

def message [Json.Numbers] [Json.Decoder] : CommandError → String
  | compile error => "Template error: " ++ error.message
  | eval error => "Evaluation error: " ++ error.message
  | render error => "Render error: " ++ error.message
  | json fault => "Invalid JSON: " ++ Json.Decoder.describe fault
  | transfer reason => "IO error: " ++ reason
  | noInput => "No input provided. Use --input or pipe JSON to stdin."

def ofRender : RenderError → CommandError
  | .compile error => compile error
  | .eval error => eval error
  | .transfer reason => transfer reason
  | error => render error

end CommandError

namespace Command

structure Options where
  template : String
  input : Option String
  strict : Bool
  syntaxOnly : Bool

namespace Options

def policy (options : Options) : MissingKeyPolicy :=
  if options.strict then .errorOnMissing else .nullOnMissing

def compile [Pattern.Engine] (options : Options) : Except CommandError Template := do
  let template ← (Template.compile (Standard.functions 0) options.template).mapError .compile
  return template.withPolicy options.policy

end Options

inductive Report where
  | valid
  | outputs (values : List Value)

section

variable [Json.Numbers] [Json.Decoder]

/-- Renders every document of a text. The first document that does not render, or else a fault of
the text, is an error. -/
def renderDocuments (template : Template) (text : String) : Except CommandError (List Value) := do
  let (documents, fault) := Json.documents text.toUTF8.toList
  let outputs ← documents.mapM fun document =>
    (template.render document.toValue).mapError CommandError.eval
  match fault with
  | some fault => throw (.json fault)
  | none => return outputs

def execute [Pattern.Engine] (options : Options) : Except CommandError Report := do
  let template ← options.compile
  if options.syntaxOnly then return .valid
  match options.input with
  | none => throw .noInput
  | some text => return .outputs (← renderDocuments template text)

def stream (template : Template) (bytes : List UInt8) (sink : Sink) :
    Except CommandError Nat × Sink :=
  let (result, sink) := template.renderAll bytes sink 0
  (result.mapError CommandError.ofRender, sink)

end

structure Outcome where
  exitCode : Nat
  output : List UInt8
  complaint : String

namespace Outcome

def success (output : List UInt8) : Outcome := ⟨0, output, ""⟩

def failure [Json.Numbers] [Json.Decoder] (output : List UInt8) (error : CommandError) : Outcome :=
  ⟨1, output, error.message ++ "\n"⟩

end Outcome

def versionText : String := "jsontemplate 0.1.0\n"

def usageText : String :=
  "Usage: jsontemplate render [--input <JSON>] [--pretty] [--strict] <TEMPLATE>\n" ++
  "       jsontemplate check <TEMPLATE>\n"

def fileName? (template : String) : Option String :=
  if template.startsWith "@" then some (String.ofList (template.toList.drop 1)) else none

def templateFile? : Command → Option String
  | render template _ _ _ => fileName? template
  | check template => fileName? template
  | _ => none

def textOf (bytes : List UInt8) : Except CommandError String :=
  match Json.textOf? bytes with
  | some text => .ok text
  | none => .error (.transfer notUtf8)

def templateSource (template : String) (file : Except String (List UInt8)) :
    Except CommandError String :=
  if (fileName? template).isSome then
    match file with
    | .ok bytes => textOf bytes
    | .error reason => .error (.transfer reason)
  else .ok template

def printed (pretty : Bool) (value : Value) : List UInt8 :=
  if pretty then (Json.pretty value ++ "\n").toUTF8.toList else Template.line value

variable [Json.Numbers] [Json.Decoder]

def outcomeOf : Except CommandError (List UInt8) → Outcome
  | .ok output => .success output
  | .error error => .failure [] error

variable [Pattern.Engine]

def renderBuffered (options : Options) (pretty : Bool) : Outcome :=
  outcomeOf do
    match ← execute options with
    | .valid => return []
    | .outputs values => return values.flatMap (printed pretty)

def renderStreamed (options : Options) (bytes : List UInt8) : Outcome :=
  match options.compile with
  | .error error => .failure [] error
  | .ok template =>
    match stream template bytes .unlimited with
    | (.ok _, sink) => .success sink.written
    | (.error error, sink) => .failure sink.written error

/-- Runs a command. There is no standard input where it is a terminal. Compact output of standard
input is streamed, so what precedes a fault is printed. -/
def run (command : Command) (file : Except String (List UInt8)) (stdin : Option (List UInt8)) :
    Outcome :=
  match command with
  | version => .success versionText.toUTF8.toList
  | help => .success usageText.toUTF8.toList
  | check template =>
    outcomeOf do
      let source ← templateSource template file
      let _ ← execute ⟨source, none, false, true⟩
      return "Template is valid\n".toUTF8.toList
  | render template input pretty strict =>
    match templateSource template file with
    | .error error => .failure [] error
    | .ok source =>
      match input, stdin, pretty with
      | none, some bytes, false => renderStreamed ⟨source, none, strict, false⟩ bytes
      | none, some bytes, true =>
        match textOf bytes with
        | .ok text => renderBuffered ⟨source, text, strict, false⟩ true
        | .error error => .failure [] error
      | input, _, pretty => renderBuffered ⟨source, input, strict, false⟩ pretty

end Command

end Stencil
