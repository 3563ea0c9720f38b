/-! The arguments of the command line. -/

namespace Stencil

/-- What to do. A template is given as its source, or as `@` and the name of a file. -/
inductive Command where
  | render (template : String) (input : Option String) (pretty strict : Bool)
  | check (template : String)
  | version
  | help
deriving DecidableEq

namespace Command

structure Arguments where
  template : Option String
  input : Option String
  pretty : Bool
  strict : Bool

inductive Reading where
  | arguments (arguments : Arguments)
  | help

namespace Arguments

def none : Arguments := ⟨.none, .none, false, false⟩

/-! Nothing may be given twice. -/

def setTemplate? (args : Arguments) (text : String) : Option Arguments :=
  if args.template.isSome then .none else some { args with template := text }

def setInput? (args : Arguments) (text : String) : Option Arguments :=
  if args.input.isSome then .none else some { args with input := text }

def setPretty? (args : Arguments) : Option Arguments :=
  if args.pretty then .none else some { args with pretty := true }

def setStrict? (args : Arguments) : Option Arguments :=
  if args.strict then .none else some { args with strict := true }

end Arguments

def isOption (arg : String) : Bool :=
  arg.startsWith "-" && arg != "-"

/-- What letters behind one dash lead to: flags alone, an option whose value is attached to them or
else is the next argument, or help. -/
inductive Letters where
  | flags (arguments : Arguments)
  | input (arguments : Arguments) (attached : Option String)
  | help

def letters? (args : Arguments) : List Char → Option Letters
  | [] => some (.flags args)
  | 'p' :: rest => do letters? (← args.setPretty?) rest
  | 'i' :: [] => some (.input args none)
  | 'i' :: '=' :: value => some (.input args (String.ofList value))
  | 'i' :: value => some (.input args (String.ofList value))
  | 'h' :: _ => some .help
  | _ => none

def readArguments (options : Bool) (args : Arguments) (plain : Bool) :
    List String → Option Reading
  | [] => some (.arguments args)
  | arg :: rest =>
    if plain || !isOption arg then do
      readArguments options (← args.setTemplate? arg) plain rest
    else if arg = "--" then readArguments options args true rest
    else if arg = "--help" ∨ arg.startsWith "-h" then some .help
    else if !options then none
    else if arg = "--pretty" then do readArguments options (← args.setPretty?) plain rest
    else if arg = "--strict" then do readArguments options (← args.setStrict?) plain rest
    else if arg = "--input" then
      match rest with
      | value :: rest => do
        if isOption value then none
        readArguments options (← args.setInput? value) plain rest
      | [] => none
    else if arg.startsWith "--input=" then do
      let value := String.ofList (arg.toList.drop "--input=".length)
      readArguments options (← args.setInput? value) plain rest
    else if arg.startsWith "--" then none
    else
      match letters? args (arg.toList.drop 1), rest with
      | some (.flags args), rest => readArguments options args plain rest
      | some (.input args (some value)), rest => do
        readArguments options (← args.setInput? value) plain rest
      | some (.input args none), value :: rest => do
        if isOption value then none
        readArguments options (← args.setInput? value) plain rest
      | some .help, _ => some .help
      | _, _ => none

def ofArguments? : List String → Option Command
  | "render" :: rest => do
    match ← readArguments true .none false rest with
    | .help => return help
    | .arguments args => return render (← args.template) args.input args.pretty args.strict
  | "check" :: rest => do
    match ← readArguments false .none false rest with
    | .help => return help
    | .arguments args => return check (← args.template)
  | "help" :: topic => if topic ∈ [[], ["render"], ["check"], ["help"]] then some help else none
  | arg :: _ =>
    if arg = "--version" ∨ arg.startsWith "-V" then some version
    else if arg = "--help" ∨ arg.startsWith "-h" then some help
    else none
  | [] => none

end Command

end Stencil
