import ModuleSharing.Build.Mode
import ModuleSharing.Files.Failure
import ModuleSharing.Share.Scope
import ModuleSharing.Toml.Document
import ModuleSharing.Toml.Writer

/-!
# Settings of the tool

Settings are read from a file in the user's home and from one in the project; what the project says
takes precedence.
-/

namespace ModuleSharing

open Json

structure BuildSettings where
  mode : Option String := none
  jobs : Option Nat := none
  /-- How long to wait for a child build. -/
  childTimeoutSecs : Option Nat := none
  messageFormat : Option String := none
deriving DecidableEq, Repr

structure RuntimeSettings where
  /-- The share scope of commands that name none. -/
  defaultShareScope : Option String := none
deriving DecidableEq, Repr

structure Settings where
  build : BuildSettings := {}
  runtime : RuntimeSettings := {}
deriving DecidableEq, Repr

/-- The folder of the tool's own files, in the home and in a project. -/
def stateFolder : String := ".fedshare"

namespace Settings

/-! ## Files -/

def buildRecord : Record BuildSettings :=
  BuildSettings.mk <$> .optional "mode" .text <*> .optional "jobs" .natural
    <*> .optional "child_timeout_secs" .natural <*> .optional "message_format" .text

def runtimeRecord : Record RuntimeSettings :=
  RuntimeSettings.mk <$> .optional "default_share_scope" .text

def record : Record Settings :=
  Settings.mk <$> .defaulted "build" {} (buildRecord.decoder "BuildConfig" .dropped)
    <*> .defaulted "runtime" {} (runtimeRecord.decoder "RuntimeConfig" .dropped)

def load (files : Files) (path : String) : Except FileError Settings := do
  let content ← FileError.under ("failed to read config file: " ++ path)
    (FileError.ofPath (files.read path))
  FileError.under ("failed to parse config file: " ++ path)
    (FileError.ofToml (Toml.decode? (record.decoder "Config" .dropped) content))

/-- The settings in a file; none if it cannot be used. -/
def loadOrDefault (files : Files) (path : String) : Settings := (load files path).toOption.getD {}

/-- The text that settings are saved as. -/
def text (s : Settings) : String :=
  Toml.write
    [("build",
      [("mode", s.build.mode.map .text), ("jobs", s.build.jobs.map .natural),
        ("child_timeout_secs", s.build.childTimeoutSecs.map .natural),
        ("message_format", s.build.messageFormat.map .text)]),
      ("runtime", [("default_share_scope", s.runtime.defaultShareScope.map .text)])]

def toJson (s : Settings) : Json :=
  .object
    [("build", .object
      [("mode", .ofOption .string s.build.mode), ("jobs", .ofOption .ofNat s.build.jobs),
        ("child_timeout_secs", .ofOption .ofNat s.build.childTimeoutSecs),
        ("message_format", .ofOption .string s.build.messageFormat)]),
      ("runtime", .object
        [("default_share_scope", .ofOption .string s.runtime.defaultShareScope)])]

/-! ## Precedence -/

/-- Settings where those in `own` take precedence. -/
def merge (s own : Settings) : Settings where
  build :=
    { mode := own.build.mode <|> s.build.mode
      jobs := own.build.jobs <|> s.build.jobs
      childTimeoutSecs := own.build.childTimeoutSecs <|> s.build.childTimeoutSecs
      messageFormat := own.build.messageFormat <|> s.build.messageFormat }
  runtime := { defaultShareScope := own.runtime.defaultShareScope <|> s.runtime.defaultShareScope }

/-- The settings of a user and a project together. -/
def ofFiles (files : Files) (userPath projectPath : String) : Settings :=
  (loadOrDefault files userPath).merge (loadOrDefault files projectPath)

/-! ## What they say -/

/-- The build mode, if one is spelled correctly. -/
def mode? (s : Settings) : Option BuildMode := s.build.mode.bind BuildMode.ofName?

def shareScope (s : Settings) : String := s.runtime.defaultShareScope.getD defaultScopeName

end Settings

end ModuleSharing
