import ModuleSharing.Build.Run
import ModuleSharing.CommandLine.Arguments
import ModuleSharing.CommandLine.Help
import ModuleSharing.Workspace

/-!
# Running commands

A command works on the files of a workspace and ends with an outcome: what it prints, the files it
leaves, and why it failed, if it did.
-/

namespace ModuleSharing.CommandLine

open Text (ticked)

inductive CommandError where
  | discovery (error : DiscoveryError)
  | noFolder (path : String)
  | file (error : FileError)
  | config (error : ConfigError)
  | load (error : LoadError)
  | unknownMode (name : String)
  | unknownFormat (name : String)
  | unknownTarget (name : String)
  | failedBuild (name : String) (errors : Nat)
  | unresolved (address : Address)
deriving DecidableEq, Repr

namespace CommandError

def message : CommandError → String
  | discovery e => e.message
  | noFolder path => "config path has no parent: " ++ path
  | file e => e.message
  | config e => e.chain
  | load e => e.message
  | unknownMode name => BuildMode.unknown name
  | unknownFormat name => "invalid message format " ++ ticked name ++ " (expected human or json)"
  | unknownTarget name => "unknown child target " ++ ticked name ++ " (expected client or server)"
  | failedBuild name errors =>
    "build of " ++ ticked name ++ " failed with " ++ toString errors ++ " error(s)"
  | unresolved a => "could not resolve " ++ ticked a.key ++ " in share scope " ++ ticked a.scope

def config? : CommandError → Option ConfigError
  | config e => some e
  | _ => none

def ofBuild : BuildError → CommandError
  | .config e => config e
  | .file e => file e

def diagnostic (e : CommandError) : Diagnostic where
  severity := .error
  message := e.message
  context := (e.config?.map ConfigError.code).toList
  suggestions := (e.config?.bind ConfigError.help?).toList

end CommandError

/-- How a command ends. -/
structure Outcome where
  exit : Nat := 0
  stdout : String := ""
  stderr : String := ""
  failure : Option CommandError := none
  files : Files
  /-- The paths of the files that were written. -/
  written : List String := []

namespace Outcome

/-- An outcome with a failure, which is shown after all else. -/
def fail (o : Outcome) (color : Bool) (e : CommandError) : Outcome :=
  let shown :=
    if e.config?.isSome then e.diagnostic.format color else "error: " ++ e.message ++ "\n"
  { o with exit := 1, stderr := o.stderr ++ shown, failure := some e }

/-- The outcome of what may fail before it prints anything. -/
def ofExcept (files : Files) (color : Bool) : Except CommandError Outcome → Outcome
  | .ok o => o
  | .error e => fail { files } color e

end Outcome

variable (w : Workspace) (files : Files)

/-! ## Configurations -/

/-- The configuration that is named, or else the nearest one, and the folder it is in. -/
def loadFederation (config : Option String) : Except CommandError (String × Federation) := do
  let path ←
    match config with
    | some path => pure (w.resolve path)
    | none => (w.findFederation files).mapError .discovery
  match Path.parent? path with
  | none => .error (.noFolder path)
  | some folder =>
    let f ← (Federation.load files path).mapError .file
    return (folder, f)

def normalize (config : Option String) : Except CommandError Outcome := do
  let (folder, f) ← loadFederation w files config
  let descriptors ← (f.normalize files folder).mapError .config
  return { stdout := (f.normalizedJson descriptors).pretty ++ "\n", files }

/-! ## Builds -/

/-- How a build is reported. -/
inductive MessageFormat where
  | human
  | json
deriving DecidableEq, Repr

def MessageFormat.ofName (s : String) : Except CommandError MessageFormat :=
  if s = "human" then .ok .human
  else if s = "json" then .ok .json
  else .error (.unknownFormat s)

namespace BuildRequest

/-- Arguments take precedence over settings. -/
def chosenMode (r : BuildRequest) (s : Settings) : Except CommandError BuildMode :=
  match r.mode with
  | none => .ok (s.mode?.getD .development)
  | some name => (BuildMode.ofName? name).elim (.error (.unknownMode name)) .ok

def chosenFormat (r : BuildRequest) (s : Settings) : Except CommandError MessageFormat :=
  MessageFormat.ofName ((r.messageFormat <|> s.build.messageFormat).getD "human")

def targets (r : BuildRequest) : Except CommandError (List BuildTarget) :=
  r.children.mapM fun name =>
    (BuildTarget.names.lookup name).elim (.error (.unknownTarget name)) .ok

def options (r : BuildRequest) (s : Settings) (mode : BuildMode) (targets : List BuildTarget) :
    BuildOptions :=
  let o : BuildOptions := { mode, useCache := r.useCache, children := targets }
  { o with childTimeoutMs := s.build.childTimeoutSecs.elim o.childTimeoutMs (· * 1000) }

end BuildRequest

/-- The outcome of a build that came to an end; `after` are the files it left. -/
def reported (r : BuildReport) (format : MessageFormat) (showSources : Bool) (after : Files) :
    Outcome :=
  match format with
  | .json =>
    { stdout := String.join (r.events.map fun e => e.toJson.compact ++ "\n"), files := after }
  | .human =>
    { stdout := r.text showSources ++ "\n"
      stderr :=
        String.join (r.warnings.map fun m => "warning: " ++ m ++ "\n") ++
          String.join (r.errors.map fun m => "error: " ++ m ++ "\n")
      files := after }

def build (r : BuildRequest) (color : Bool) (stamp : Nat) : Except CommandError Outcome := do
  let (folder, f) ← loadFederation w files r.config
  let settings := w.settings files folder
  let mode ← r.chosenMode settings
  let format ← r.chosenFormat settings
  let targets ← r.targets
  let (report, after) ←
    (f.build files folder (r.options settings mode targets) stamp).mapError .ofBuild
  let written := if r.useCache then BuildCache.paths folder else []
  let o := { reported report format r.showSources after with written }
  return if report.success then o
    else o.fail color (.failedBuild f.containerName report.errors.length)

/-! ## Simulated loads -/

/-- What a load came to, in one line. -/
def loadLine (key : String) (o : LoadOutcome) : String :=
  match o.version with
  | none => o.loader.name ++ " " ++ key ++ " -> fallback"
  | some v =>
    o.loader.name ++ " " ++ key ++ "@" ++ v.text ++
      match o.origin with
      | none | some "" => ""
      | some origin => " from " ++ origin

def resolve (state : String) (o : LoadOptions) (asJson color : Bool) :
    Except CommandError Outcome := do
  let path := w.resolve state
  let snapshot ← (Snapshot.load files path).mapError .file
  let registry ← snapshot.toRegistry.mapError .load
  match (registry.simulate o).1 with
  | .error e =>
    let shown := { e.diagnostic with location := some path }.format color
    return Outcome.fail { stderr := shown, files } color (.unresolved o.address)
  | .ok outcome =>
    if asJson then return { stdout := outcome.toJson.pretty ++ "\n", files }
    let warnings := outcome.warnings.map fun m =>
      { severity := .warning, message := m : Diagnostic }.format color
    return {
      stdout := loadLine o.address.key outcome ++ "\n"
      stderr := String.join warnings
      files }

/-! ## All commands -/

def Invocation.run (i : Invocation) (stamp : Nat) : Outcome :=
  .ofExcept files i.color <|
    match i.command with
    | .normalize config => normalize w files config
    | .build request => CommandLine.build w files request i.color stamp
    | .resolve state load asJson => resolve w files state load asJson i.color

/-- The outcome when there is no command to run. -/
def Stop.outcome : Stop → Outcome
  | .help form => { stdout := form.helpText, files }
  | .version => { stdout := programName ++ " " ++ programVersion ++ "\n", files }
  | .usage e =>
    { exit := 2
      stderr := "error: " ++ e.message ++ "\n\nFor more information, try '--help'.\n"
      files }

/-- Runs the tool with some arguments; `stamp` is the time of the run. -/
def run (arguments : List String) (stamp : Nat) : Outcome :=
  match parse {} arguments with
  | .ok i => i.run w files stamp
  | .error s => s.outcome files

end ModuleSharing.CommandLine
