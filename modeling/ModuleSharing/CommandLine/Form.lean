import ModuleSharing.Text.Decimal

/-!
# Forms of commands

A form says what a command is about and which options and operands it takes.  Reading arguments and
printing help both go by the forms.
-/

namespace ModuleSharing.CommandLine

/-- What an option asks for. Labels stand for values in help texts. -/
inductive OptionKind where
  | flag
  | help
  | version
  | text (label : String)
  | path (label : String)
  | count (label : String)
deriving DecidableEq, Repr

/-- A count is written in digits, after a `+` or not. -/
def count? (s : String) : Option Nat :=
  match s.toList with
  | '+' :: digits => Text.word? digits
  | digits => Text.word? digits

namespace OptionKind

def label? : OptionKind → Option String
  | text label => some label
  | path label => some label
  | count label => some label
  | _ => none

def takesValue (k : OptionKind) : Bool := k.label?.isSome

/-- A path may not be empty. -/
def accepts : OptionKind → String → Bool
  | path _, value => !value.isEmpty
  | count _, value => (count? value).isSome
  | _, _ => true

end OptionKind

structure CommandOption where
  name : String
  letter : Option Char := none
  kind : OptionKind := .flag
  help : String
  required : Bool := false
  repeatable : Bool := false
deriving DecidableEq, Repr

structure Operand where
  label : String
  help : String
deriving DecidableEq, Repr

structure CommandForm where
  /-- The words that start the command. -/
  name : String
  about : String
  options : List CommandOption := []
  operands : List Operand := []
  /-- Commands inside this one, with what they are about. -/
  commands : List (String × String) := []
deriving DecidableEq, Repr

namespace CommandForm

def named? (f : CommandForm) (name : List Char) : Option CommandOption :=
  f.options.find? fun o => o.name.toList = name

def lettered? (f : CommandForm) (letter : Char) : Option CommandOption :=
  f.options.find? fun o => o.letter = some letter

end CommandForm

/-! ## Options of every command -/

def verboseOption : CommandOption where
  name := "verbose"
  letter := some 'v'
  help := "Enable verbose output"

def noColorOption : CommandOption where
  name := "no-color"
  help := "Disable colored output"

def helpOption : CommandOption where
  name := "help"
  letter := some 'h'
  kind := .help
  help := "Print help"

def versionOption : CommandOption where
  name := "version"
  letter := some 'V'
  kind := .version
  help := "Print version"

namespace CommandOption

/-- Options are listed by their letters, and those without one by their names. -/
def sortKey (o : CommandOption) : String := o.letter.elim o.name fun c => String.ofList [c, '0']

/-- Takes from two lists in turn; of two options in the same place the one with the smaller key
comes first. -/
def interleave : List CommandOption → List CommandOption → List CommandOption
  | o :: os, p :: ps => (if o.sortKey < p.sortKey then [o, p] else [p, o]) ++ interleave os ps
  | os, [] => os
  | [], ps => ps

/-- Some options together with those of every command, in the order of a help text. -/
def withCommon (own : List CommandOption) : List CommandOption :=
  interleave own [verboseOption, noColorOption] ++ [helpOption]

end CommandOption

/-! ## The commands -/

def programName : String := "fedshare"

def programVersion : String := "0.1.0"

/-- What the tool does on command. -/
inductive Verb where
  | normalize
  | build
  | resolve
deriving DecidableEq, Repr

namespace Verb

def name : Verb → String
  | normalize => "normalize"
  | build => "build"
  | resolve => "resolve"

def about : Verb → String
  | normalize => "Print the normalized share declarations as JSON"
  | build => "Build the shared modules of the current project"
  | resolve => "Simulate runtime resolution against a registry snapshot"

def all : List Verb := [normalize, build, resolve]

def ofName? (s : String) : Option Verb := all.find? fun v => v.name = s

def configOption : CommandOption where
  name := "config"
  kind := .path "CONFIG"
  help := "Federation config (defaults to the nearest federation.json/.toml)"

def options : Verb → List CommandOption
  | normalize => [configOption]
  | build =>
    [configOption,
      { name := "message-format", kind := .text "FMT", help := "Output format (human, json)" },
      { name := "cache", help := "Reuse units from the previous build" },
      { name := "mode", kind := .text "MODE", help := "Build mode (development, production)" },
      { name := "jobs", letter := some 'j', kind := .count "JOBS",
        help := "Number of parallel jobs" },
      { name := "child", kind := .text "TARGET", repeatable := true,
        help := "Also run a child build for this target (client, server)" },
      { name := "sources", help := "Print generated sources in human output" }]
  | resolve =>
    [{ name := "state", kind := .path "STATE", required := true,
        help := "Registry snapshot (JSON)" },
      { name := "range", kind := .text "RANGE", help := "Required version range" },
      { name := "singleton", help := "Allow only one active version" },
      { name := "strict", help := "Fail instead of warning on a version mismatch" },
      { name := "fallback", kind := .text "FALLBACK",
        help := "Local fallback module to use when nothing matches" },
      { name := "json", help := "Print the outcome as JSON" }]

def operands : Verb → List Operand
  | resolve => [⟨"<SCOPE>", "Share scope to resolve in"⟩, ⟨"<KEY>", "Share key to load"⟩]
  | _ => []

def form (v : Verb) : CommandForm where
  name := programName ++ " " ++ v.name
  about := v.about
  options := CommandOption.withCommon v.options
  operands := v.operands

end Verb

def helpName : String := "help"

/-- The form of the command that prints help. -/
def helpForm : CommandForm where
  name := programName ++ " " ++ helpName
  about := "Print this message or the help of the given subcommand(s)"
  operands := [⟨"[COMMAND]...", "Print help for the subcommand(s)"⟩]

/-- The form of the tool itself. -/
def programForm : CommandForm where
  name := programName
  about := "Shared-module federation for JavaScript bundles: share declarations, " ++
    "consume/provide units and a runtime share scope"
  options := CommandOption.withCommon [] ++ [versionOption]
  commands := Verb.all.map (fun v => (v.name, v.about)) ++ [(helpName, helpForm.about)]

end ModuleSharing.CommandLine
