import ModuleSharing.Build.Event
import ModuleSharing.Bundle.Unit
import ModuleSharing.Child.Registry

/-!
# Build reports

The result of a build.  Its errors, warnings and omissions are read off its events.
-/

namespace ModuleSharing

/-- A unit with the code generated for it. -/
structure BuiltUnit where
  identifier : String
  readable : String
  libraryName : String
  kind : ShareKind
  /-- Whether the last build had the same. -/
  fresh : Bool
  code : SharedUnit.GeneratedCode

structure BuildReport where
  units : List BuiltUnit := []
  children : List ChildReport := []
  /-- What was reported, in order. -/
  events : List BuildEvent := []

namespace BuildReport

def errors (r : BuildReport) : List String :=
  r.events.filterMap fun
    | .diagnostic .error message => some message
    | _ => none

def warnings (r : BuildReport) : List String :=
  r.events.filterMap fun
    | .diagnostic .warning message => some message
    | _ => none

/-- Keys that filters left out, with the reasons. -/
def skipped (r : BuildReport) : List (String × String) :=
  r.events.filterMap fun
    | .unitSkipped key reason => some (key, reason)
    | _ => none

def success (r : BuildReport) : Bool := r.errors.isEmpty

/-! ## For a terminal -/

private def line (s : String) : String := s ++ "\n"

private def unitText (showSources : Bool) (u : BuiltUnit) : String :=
  line (u.readable ++ if u.fresh then " (fresh)" else "") ++
    (u.code.loaderCall.elim "" fun call => line ("  loader: " ++ call.text)) ++
    (u.code.init.elim "" fun init => line ("  init: " ++ init)) ++
    if showSources then
      String.join <| u.code.sources.map fun (kind, source) =>
        line ("  " ++ kind.name ++ ": " ++ source)
    else ""

private def childText (r : ChildReport) : String :=
  line ("child build " ++ r.target.name ++ ": " ++ (if r.success then "ok" else "FAILED") ++ " (" ++
    toString r.durationMs ++ "ms)") ++
    String.join (r.assets.map fun asset => line ("  asset: " ++ asset))

private def counts (r : BuildReport) : String :=
  toString r.units.length ++ " units, " ++ toString r.skipped.length ++ " skipped, " ++
    toString r.warnings.length ++ " warnings, " ++ toString r.errors.length ++ " errors"

/-- The report as it is shown to a user; the last line is not ended. -/
def text (r : BuildReport) (showSources : Bool) : String :=
  String.join (r.units.map (unitText showSources)) ++
    String.join (r.skipped.map fun (key, reason) => line ("skipped " ++ key ++ ": " ++ reason)) ++
    String.join (r.children.map childText) ++ r.counts

end BuildReport

end ModuleSharing
