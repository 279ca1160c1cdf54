import ModuleSharing.Bundle.Unit
import ModuleSharing.Share.Filter
import ModuleSharing.Share.Manifest

/-!
# Preparing units

A descriptor is resolved in the project's files and put through its filters before it becomes a
unit.
-/

namespace ModuleSharing

/-- Why a descriptor cannot become a unit. -/
inductive PrepareError where
  | unresolved (key request : String)
  | filter (error : FilterError)
deriving DecidableEq, Repr

namespace PrepareError

def message : PrepareError → String
  | unresolved key request =>
    "cannot resolve " ++ Text.ticked request ++ " for shared module " ++ Text.ticked key
  | filter e => e.message

end PrepareError

inductive Prepared where
  | unit (u : SharedUnit)
  /-- A filter left it out. -/
  | skipped (reason : String)
  | failed (error : PrepareError)
deriving DecidableEq, Repr

/-- What a descriptor became, and the warnings on the way. -/
structure Preparation where
  warnings : List String := []
  result : Prepared
deriving DecidableEq, Repr

/-- A resolved descriptor after its filters. -/
def ShareDescriptor.admitted (d : ShareDescriptor) (version : Option Version) (mode : FilterMode) :
    Prepared :=
  match d.filter ⟨d.request, d.fallbackResolved⟩ version mode with
  | .ok .accept => .unit (.ofDescriptor d)
  | .ok (.skip reason) => .skipped reason
  | .error e => .failed (.filter e)

namespace Files

variable (files : Files) (context : String)

/-- The file of the consumer's own module. -/
def fallbackFile? (d : ShareDescriptor) : Option String :=
  d.fallbackResolved <|> d.fallbackRequest.bind (files.resolveModule? context)

/-- A fallback that cannot be resolved causes a warning. -/
def prepareConsume (d : ShareDescriptor) : Preparation :=
  match files.fallbackFile? context d with
  | some path =>
    { result :=
        { d with fallbackResolved := some path }.admitted (files.versionOfModule? path) .consume }
  | none =>
    { warnings := d.fallbackRequest.toList.map fun request =>
        (PrepareError.unresolved d.shareKey request).message
      result := d.admitted none .consume }

/-- The message about a module without a version. -/
def versionless (d : ShareDescriptor) : String :=
  "no version specified and unable to determine one for shared module " ++ Text.ticked d.shareKey ++
    " (" ++ d.request ++ "); providing it as version 0"

/-- A provided module has to be there; its version may be missing. -/
def prepareProvide (d : ShareDescriptor) : Preparation :=
  match files.resolveModule? context d.request with
  | none => { result := .failed (.unresolved d.shareKey d.request) }
  | some path =>
    let inferred := files.versionOfModule? path
    let resolved :=
      { d with fallbackResolved := some path, version := d.effectiveVersion inferred }
    { warnings := if d.version.isUnset && inferred.isNone then [versionless d] else []
      result := resolved.admitted resolved.version.value? .provide }

def prepare (d : ShareDescriptor) : Preparation :=
  match d.kind with
  | .consume => files.prepareConsume context d
  | .provide => files.prepareProvide context d

end Files

end ModuleSharing
