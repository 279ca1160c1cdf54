import ModuleSharing.Registry.Snapshot

/-!
# Simulated loads

One load the way a generated stub makes it: the loader function is picked from what the request asks
for, and the outcome says what it loaded and which warnings that caused.
-/

namespace ModuleSharing

open Json

/-- A load to simulate. -/
structure LoadOptions where
  address : Address
  range : Option String := none
  singleton : Bool := false
  strict : Bool := false
  /-- The name of the consumer's own module. -/
  fallback : Option String := none
deriving DecidableEq, Repr

/-- What a simulated load produced. -/
structure LoadOutcome where
  /-- The loader function that the stub calls. -/
  loader : Loader
  version : Option Version
  /-- The bundle that registered the version. -/
  origin : Option String
  fallback : Bool
  module : Json
  warnings : List String

def LoadOutcome.toJson (o : LoadOutcome) : Json :=
  .object <|
    [("function", .string o.loader.name)] ++
    optional "version" (fun v => .string v.text) o.version ++
    optional "from" .string o.origin ++
    [("fallback", .bool o.fallback), ("module", o.module)] ++
    if o.warnings.isEmpty then [] else [("warnings", .ofStrings o.warnings)]

/-- The module that stands for the consumer's own one. -/
def fallbackModule (name : String) : Json := .object [("fallback", .string name)]

def LoadOptions.parsedRange (o : LoadOptions) : Except LoadError (Option VersionRange) :=
  match o.range with
  | none => .ok none
  | some s => ((VersionRange.parse s).mapError .malformed).map some

namespace Source

def version? : Source → Option Version
  | .shared version _ => some version
  | .fallback => none

def origin? : Source → Option String
  | .shared _ origin => some origin
  | .fallback => none

end Source

/-- Simulates one load. -/
def Registry.simulate (r : Registry Json) (o : LoadOptions) :
    Except LoadError LoadOutcome × Registry Json :=
  match o.parsedRange with
  | .error e => (.error e, r)
  | .ok range =>
    let loader := Loader.select range.isSome o.strict o.singleton o.fallback.isSome
    let fallback := o.fallback.map fun name => .ok (fallbackModule name)
    let (result, r') := r.invoke loader o.address range fallback
    (result.map fun loaded =>
      { loader
        version := loaded.source.version?
        origin := loaded.source.origin?
        fallback := loaded.isFallback
        module := loaded.module
        warnings := r'.warnings.drop r.warnings.length }, r')

end ModuleSharing
