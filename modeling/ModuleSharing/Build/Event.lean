import ModuleSharing.Diagnostic
import ModuleSharing.Json.Printer

/-!
# Build events

What a build reports while it runs, one JSON object an event.
-/

namespace ModuleSharing

open Json

inductive BuildEvent where
  | started (mode : String) (declarations : Nat)
  /-- A unit was built; it is fresh if the last build had the same. -/
  | unitBuilt (identifier readable : String) (fresh : Bool)
  /-- A filter left a declaration out. -/
  | unitSkipped (shareKey reason : String)
  | codeGenerated (identifier : String) (loaderCall source init : Option String)
      (requirements : List String)
  | childFinished (target : String) (success : Bool) (errors : List String)
  | diagnostic (level : Severity) (message : String)
  | finished (success : Bool) (durationMs : Nat) (unitsBuilt : Option Nat)
deriving DecidableEq, Repr

namespace BuildEvent

def reason : BuildEvent → String
  | started _ _ => "build-started"
  | unitBuilt _ _ _ => "unit-built"
  | unitSkipped _ _ => "unit-skipped"
  | codeGenerated _ _ _ _ _ => "code-generated"
  | childFinished _ _ _ => "child-build-finished"
  | diagnostic _ _ => "diagnostic"
  | finished _ _ _ => "build-finished"

def members : BuildEvent → List (String × Json)
  | started mode declarations => [("mode", .string mode), ("declarations", .ofNat declarations)]
  | unitBuilt identifier readable fresh =>
    [("identifier", .string identifier), ("readable", .string readable), ("fresh", .bool fresh)]
  | unitSkipped key reason => [("share_key", .string key), ("detail", .string reason)]
  | codeGenerated identifier call source init requirements =>
    [("identifier", .string identifier)] ++ optional "loader_call" .string call ++
      optional "source" .string source ++ optional "init" .string init ++
      [("runtime_requirements", .ofStrings requirements)]
  | childFinished target success errors =>
    [("target", .string target), ("success", .bool success)] ++
      if errors.isEmpty then [] else [("errors", .ofStrings errors)]
  | diagnostic level message => [("level", .string level.name), ("message", .string message)]
  | finished success durationMs unitsBuilt =>
    [("success", .bool success), ("duration_ms", .ofNat durationMs)] ++
      optional "units_built" .ofNat unitsBuilt

def toJson (e : BuildEvent) : Json := .object (("reason", .string e.reason) :: e.members)

end BuildEvent

end ModuleSharing
