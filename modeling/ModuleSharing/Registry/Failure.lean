import ModuleSharing.Diagnostic
import ModuleSharing.Range.Parser

/-!
# Failed loads

Why a shared module could not be loaded, the message for it, and the diagnostic a user sees.
-/

namespace ModuleSharing

inductive LoadError where
  | noSatisfyingVersion (scope key required : String) (available : List String)
  | versionConflict (scope key required active : String)
  | factoryFailed (scope key reason : String)
  | unknownLoader (name : String)
  | malformed (error : VersionError)
deriving DecidableEq, Repr

namespace LoadError

open Text (ticked)

private def availability (available : List String) : String :=
  if available.isEmpty then " (nothing is registered)"
  else " (available: " ++ ", ".intercalate available ++ ")"

def message : LoadError → String
  | noSatisfyingVersion scope key required available =>
    "no version of " ++ ticked key ++ " in share scope " ++ ticked scope ++ " satisfies " ++
      ticked required ++ availability available
  | versionConflict scope key required active =>
    "singleton " ++ ticked key ++ " in share scope " ++ ticked scope ++ " is already active at " ++
      active ++ ", but " ++ ticked required ++ " is required"
  | factoryFailed scope key reason =>
    "factory for " ++ ticked key ++ " in share scope " ++ ticked scope ++ " failed: " ++ reason
  | unknownLoader name => "unknown loader function " ++ ticked name
  | malformed error => error.message

/-- The share key that the failure is about. -/
def shareKey? : LoadError → Option String
  | noSatisfyingVersion _ key _ _ => some key
  | versionConflict _ key _ _ => some key
  | factoryFailed _ key _ => some key
  | unknownLoader _ => none
  | malformed _ => none

def diagnostic : LoadError → Diagnostic
  | noSatisfyingVersion scope key required available =>
    { severity := .error
      message := "no shared version of " ++ ticked key ++ " satisfies " ++ ticked required
      context :=
        ["share scope: " ++ scope,
          if available.isEmpty then "no bundle registered " ++ ticked key
          else "registered versions: " ++ ", ".intercalate available]
      suggestions :=
        ["Provide a compatible version of " ++ ticked key ++ " from one of the bundles",
          "Declare a local fallback (" ++ ticked "import" ++ ") for " ++ ticked key ++
            " in the consuming bundle"] }
  | versionConflict scope key required active =>
    { severity := .error
      message := "singleton version conflict for " ++ ticked key
      context := ["share scope: " ++ scope, "active version: " ++ active, "required: " ++ required]
      suggestions :=
        ["Align every bundle on a version of " ++ ticked key ++ " matching " ++ ticked required,
          "Disable " ++ ticked "strictVersion" ++ " to accept the active singleton"] }
  | factoryFailed scope key reason =>
    { severity := .error
      message := "could not instantiate shared module " ++ ticked key
      context := ["share scope: " ++ scope, reason] }
  | unknownLoader name =>
    { severity := .error
      message := "unknown loader function " ++ ticked name
      suggestions := ["Regenerate the consuming bundle"] }
  | malformed error => { severity := .error, message := error.message }

end LoadError

end ModuleSharing
