import ModuleSharing.CommandLine.Form
import ModuleSharing.Registry.Simulation
import ModuleSharing.Text.Quoted

/-!
# Reading arguments

Arguments are read from left to right by the form of a command.  A request for help and a mistake
take effect where they stand; what is missing is noticed at the end.
-/

namespace ModuleSharing.CommandLine

open Text (ticked)

/-- A mistake in the use of a command. -/
inductive UsageError where
  | unknownCommand (name : String)
  | unknownOption (name : String)
  | unexpectedOperand (value : String)
  | unexpectedValue (option : String)
  | missingValue (option : String)
  | invalidValue (option value : String)
  | repeated (option : String)
  | missing (label : String)
deriving DecidableEq, Repr

def UsageError.message : UsageError → String
  | unknownCommand name => "unknown command " ++ ticked name
  | unknownOption name => "unknown option " ++ ticked name
  | unexpectedOperand value => "unexpected argument " ++ ticked value
  | unexpectedValue option => ticked ("--" ++ option) ++ " takes no value"
  | missingValue option => ticked ("--" ++ option) ++ " needs a value"
  | invalidValue option value =>
    "invalid value " ++ ticked value ++ " for " ++ ticked ("--" ++ option)
  | repeated option => ticked ("--" ++ option) ++ " is given more than once"
  | missing label => "missing argument " ++ ticked label

/-- Why reading ends without a command to run. -/
inductive Stop where
  | help (form : CommandForm)
  | version
  | usage (error : UsageError)
deriving DecidableEq, Repr

/-- What was read so far: options with their values, and operands. -/
structure Given where
  options : List (String × String) := []
  operands : List String := []
deriving DecidableEq, Repr

namespace Given

def has (g : Given) (name : String) : Bool := g.options.any fun o => o.1 = name

def value? (g : Given) (name : String) : Option String := g.options.lookup name

/-- Every value of an option that may be repeated. -/
def values (g : Given) (name : String) : List String :=
  (g.options.filter fun o => o.1 = name).map Prod.snd

def required (g : Given) (name : String) : Except Stop String :=
  (g.value? name).elim (.error (.usage (.missing ("--" ++ name)))) .ok

/-- The operand in the `i`th place. -/
def operand (g : Given) (i : Nat) (label : String) : Except Stop String :=
  g.operands[i]?.elim (.error (.usage (.missing label))) .ok

def addOption (g : Given) (o : CommandOption) (value : String) : Except Stop Given :=
  if !o.kind.accepts value then .error (.usage (.invalidValue o.name value))
  else if !o.repeatable && g.has o.name then .error (.usage (.repeated o.name))
  else .ok { g with options := g.options ++ [(o.name, value)] }

/-- Takes an option that has no value. -/
def addFlag (form : CommandForm) (g : Given) (o : CommandOption) : Except Stop Given :=
  match o.kind with
  | .help => .error (.help form)
  | .version => .error .version
  | _ => g.addOption o ""

def addOperand (form : CommandForm) (g : Given) (value : String) : Except Stop Given :=
  if g.operands.length < form.operands.length then
    .ok { g with operands := g.operands ++ [value] }
  else .error (.usage (.unexpectedOperand value))

end Given

/-! ## One argument -/

/-- An option under its name, without the dashes. An option that waits for its value is returned. -/
def readName (form : CommandForm) (g : Given) (body : List Char) :
    Except Stop (Given × Option CommandOption) :=
  let name := body.takeWhile (· != '=')
  match form.named? name with
  | none => .error (.usage (.unknownOption (String.ofList name)))
  | some o =>
    match body.dropWhile (· != '='), o.kind.takesValue with
    | _ :: value, true => (g.addOption o (String.ofList value)).map (·, none)
    | _ :: _, false => .error (.usage (.unexpectedValue o.name))
    | [], true => .ok (g, some o)
    | [], false => (g.addFlag form o).map (·, none)

/-- A run of letters. What follows the letter of an option with a value is its value. -/
def readLetters (form : CommandForm) (g : Given) :
    List Char → Except Stop (Given × Option CommandOption)
  | [] => .ok (g, none)
  | c :: cs =>
    match form.lettered? c with
    | none => .error (.usage (.unknownOption (String.ofList [c])))
    | some o =>
      if o.kind.takesValue then
        match cs with
        | [] => .ok (g, some o)
        | '=' :: value => (g.addOption o (String.ofList value)).map (·, none)
        | value => (g.addOption o (String.ofList value)).map (·, none)
      else do readLetters form (← g.addFlag form o) cs

/-- An argument after its first dash. -/
def readOption (form : CommandForm) (g : Given) :
    List Char → Except Stop (Given × Option CommandOption)
  | '-' :: body => readName form g body
  | letters => readLetters form g letters

/-- Whether an argument starts an option; a single dash is a value like any other. -/
def isOption (argument : String) : Bool :=
  match argument.toList with
  | '-' :: _ :: _ => true
  | _ => false

/-! ## All arguments -/

/-- Reads the arguments of a command. After `--` there are operands only. -/
def scan (form : CommandForm) (g : Given) : List String → Except Stop Given
  | [] => .ok g
  | argument :: rest => do
    if argument = "--" then rest.foldlM (Given.addOperand form) g
    else if isOption argument then
      match ← readOption form g argument.toList.tail, rest with
      | (g, none), rest => scan form g rest
      | (g, some o), value :: rest =>
        if isOption value then .error (.usage (.missingValue o.name))
        else scan form (← g.addOption o value) rest
      | (_, some o), [] => .error (.usage (.missingValue o.name))
    else scan form (← g.addOperand form argument) rest

/-- What to build, as far as the arguments say. -/
structure BuildRequest where
  config : Option String := none
  messageFormat : Option String := none
  useCache : Bool := false
  mode : Option String := none
  jobs : Option Nat := none
  children : List String := []
  showSources : Bool := false
deriving DecidableEq, Repr

inductive Command where
  | normalize (config : Option String)
  | build (request : BuildRequest)
  | resolve (state : String) (load : LoadOptions) (asJson : Bool)
deriving DecidableEq, Repr

/-- The command that is meant by what was read. -/
def Command.ofGiven (g : Given) : Verb → Except Stop Command
  | .normalize => .ok (.normalize (g.value? "config"))
  | .build =>
    .ok <| .build
      { config := g.value? "config"
        messageFormat := g.value? "message-format"
        useCache := g.has "cache"
        mode := g.value? "mode"
        jobs := (g.value? "jobs").bind count?
        children := g.values "child"
        showSources := g.has "sources" }
  | .resolve => do
    let state ← g.required "state"
    let scope ← g.operand 0 "<SCOPE>"
    let key ← g.operand 1 "<KEY>"
    return .resolve state
      { address := ⟨scope, key⟩
        range := g.value? "range"
        singleton := g.has "singleton"
        strict := g.has "strict"
        fallback := g.value? "fallback" }
      (g.has "json")

/-- A command and how its messages are shown. -/
structure Invocation where
  command : Command
  color : Bool := true
deriving DecidableEq, Repr

/-- The form that help is asked for by name. -/
def helpTopic : List String → Except Stop CommandForm
  | [] => .ok programForm
  | [name] =>
    if name = helpName then .ok helpForm
    else (Verb.ofName? name).elim (.error (.usage (.unknownCommand name))) (.ok ·.form)
  | _ :: name :: _ => .error (.usage (.unknownCommand name))

/-- Reads the arguments of the tool: options of every command, the command, and its arguments. -/
def parse (g : Given) : List String → Except Stop Invocation
  | [] => .error (.usage (.missing "<COMMAND>"))
  | argument :: rest => do
    if argument = "--" then .error (.usage (.missing "<COMMAND>"))
    else if isOption argument then
      match ← readOption programForm g argument.toList.tail with
      | (g, none) => parse g rest
      | (_, some o) => .error (.usage (.missingValue o.name))
    else if argument = helpName then .error (.help (← helpTopic rest))
    else
      match Verb.ofName? argument with
      | none => .error (.usage (.unknownCommand argument))
      | some verb =>
        let own ← scan verb.form {} rest
        return {
          command := ← Command.ofGiven own verb
          color := !(g.has noColorOption.name || own.has noColorOption.name) }

end ModuleSharing.CommandLine
