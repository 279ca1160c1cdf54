import ModuleSharing.Bundle.Code
import ModuleSharing.Files.Path
import ModuleSharing.Fingerprint
import ModuleSharing.Share.Descriptor

/-!
# Shared units

A unit is what a descriptor is built into: a consuming unit calls a loader function, a providing
unit registers a module when sharing is initialized.  Units with one identifier are the same unit.
-/

namespace ModuleSharing

open Json

inductive DependencyKind where
  /-- The fallback of a consuming unit. -/
  | consumeFallback
  /-- The module that a providing unit registers. -/
  | providedModule
deriving DecidableEq, Repr

namespace DependencyKind

def name : DependencyKind → String
  | consumeFallback => "consume-fallback"
  | providedModule => "provided-module"

def decoder : Decoder DependencyKind :=
  .name [(consumeFallback.name, consumeFallback), (providedModule.name, providedModule)]

end DependencyKind

/-- A local module that a unit depends on. -/
structure Dependency where
  kind : DependencyKind
  request : String
deriving DecidableEq, Repr

namespace Dependency

def toJson (d : Dependency) : Json :=
  .object [("kind", .string d.kind.name), ("request", .string d.request)]

def record : Record Dependency :=
  Dependency.mk <$> .required "kind" DependencyKind.decoder <*> .required "request" .text

def decoder : Decoder Dependency := record.decoder "ModuleDependency" .ignored

end Dependency

/-- Dependencies that are fetched when they are needed. -/
abbrev AsyncBlock := List Dependency

namespace AsyncBlock

def toJson (b : AsyncBlock) : Json := .object [("dependencies", .array (b.map Dependency.toJson))]

def record : Record AsyncBlock := .required "dependencies" (.list Dependency.decoder)

def decoder : Decoder AsyncBlock := record.decoder "AsyncBlock" .ignored

end AsyncBlock

/-- What generated code a unit has. -/
inductive SourceType where
  | consumeShared
  | shareInit
deriving DecidableEq, Repr

def SourceType.name : SourceType → String
  | consumeShared => "consume-shared"
  | shareInit => "share-init"

structure SharedUnit where
  /-- Whether it consumes or provides, whatever its descriptor says. -/
  kind : ShareKind
  options : ShareDescriptor
  layer : Option String := none
  /-- The fingerprint of the options it was built from. -/
  buildHash : Option String := none
  dependencies : List Dependency := []
  blocks : List AsyncBlock := []
deriving DecidableEq, Repr

namespace SharedUnit

/-- The unit of a descriptor, not yet built. -/
def ofDescriptor (d : ShareDescriptor) : SharedUnit where
  kind := d.kind
  options := d
  layer := d.layer

def needBuild (u : SharedUnit) : Bool := u.buildHash.isNone

/-- An estimate; the weight of a unit is in the module it stands for. -/
def size (_ : SharedUnit) : Nat := 42

def sourceType (u : SharedUnit) : SourceType :=
  match u.kind with
  | .consume => .consumeShared
  | .provide => .shareInit

/-- The module that a providing unit registers. -/
def providedRequest (u : SharedUnit) : String := u.options.fallbackResolved.getD u.options.request

/-- The local module that a unit depends on. -/
def request? (u : SharedUnit) : Option String :=
  match u.kind with
  | .consume => u.options.fallback?
  | .provide => some u.providedRequest

/-! ## Names -/

def flag (b : Bool) : String := if b then "true" else "false"

/-- A flag that is set, in parentheses. -/
def mark (b : Bool) (name : String) : String := if b then " (" ++ name ++ ")" else ""

def layerMark (u : SharedUnit) : String := u.layer.elim "" fun l => " (" ++ l ++ ")"

def requiredLabel (d : ShareDescriptor) : String :=
  match d.requiredVersion with
  | .unset => ""
  | .disabled => "false"
  | .value range => range.text

def versionLabel (d : ShareDescriptor) : String :=
  match d.version with
  | .unset => "0"
  | .disabled => "false"
  | .value version => version.text

def consumeIdentifier (u : SharedUnit) : String :=
  let d := u.options
  "consume-shared-module|" ++ "|".intercalate
    [d.shareScope.joined, d.shareKey, requiredLabel d, flag d.strictVersion, d.fallback?.getD "",
      flag d.singleton, flag d.eager, u.layer.getD ""]

def provideIdentifier (u : SharedUnit) : String :=
  let d := u.options
  "provide module (" ++ d.shareScope.joined ++ ") " ++ d.shareKey ++ "@" ++ versionLabel d ++
    " = " ++ u.providedRequest ++ mark d.eager "eager" ++ mark d.singleton "singleton" ++
    mark d.strictVersion "strict" ++ u.layerMark

/-- What tells units apart. -/
def identifier (u : SharedUnit) : String :=
  match u.kind with
  | .consume => u.consumeIdentifier
  | .provide => u.provideIdentifier

/-- The name shown to users, with paths as seen from the folder `base`. -/
def readable (u : SharedUnit) (base : String) : String :=
  let d := u.options
  match u.kind with
  | .consume =>
    "consume shared module (" ++ d.shareScope.joined ++ ") " ++ d.shareKey ++ "@" ++
      d.requiredRange?.elim "*" VersionRange.text ++ mark d.strictVersion "strict" ++
      mark d.singleton "singleton" ++
      d.fallback?.elim "" (fun path => " (fallback: " ++ Path.shorten base path ++ ")") ++
      mark d.eager "eager" ++ u.layerMark
  | .provide =>
    "provide shared module (" ++ d.shareScope.joined ++ ") " ++ d.shareKey ++ "@" ++
      versionLabel d ++ " = " ++ Path.shorten base u.providedRequest

/-- The name under which a library can refer to the unit. -/
def libraryName (u : SharedUnit) : String :=
  let d := u.options
  (u.layer.elim "" fun l => "(" ++ l ++ ")/") ++ "webpack/sharing/" ++ u.kind.name ++ "/" ++
    d.shareScope.joined ++ "/" ++ d.shareKey ++
    match u.kind with
    | .consume => d.fallbackRequest.elim "" fun r => "/" ++ r
    | .provide => ""

/-! ## Building -/

/-- The fingerprint of a unit. -/
def hash (u : SharedUnit) : String :=
  Fingerprint.ofParts [.text u.identifier, .json u.options.toJson]

def dependencyKind (u : SharedUnit) : DependencyKind :=
  match u.kind with
  | .consume => .consumeFallback
  | .provide => .providedModule

/-- Builds a unit. An eager unit depends on its module at once, any other through a block. -/
def build (u : SharedUnit) : SharedUnit :=
  let wanted := u.request?.toList.map fun request => Dependency.mk u.dependencyKind request
  { u with
    buildHash := some u.hash
    dependencies := if u.options.eager then wanted else []
    blocks := if u.options.eager then [] else wanted.map ([·]) }

/-! ## Code generation -/

/-- The code generated for a unit. -/
structure GeneratedCode where
  sources : List (SourceType × String) := []
  requirements : List RuntimeGlobal
  /-- What other parts of the bundle are told, by name. -/
  data : List (String × Json)
  loaderCall : Option LoaderCall := none
  /-- The statement that registers the module. -/
  init : Option String := none

def loader (u : SharedUnit) : Loader :=
  let d := u.options
  .select d.requiredRange?.isSome d.strictVersion d.singleton d.fallback?.isSome

/-- The call of a consuming unit, given the code of its fallback. -/
def loaderCall (u : SharedUnit) (fallback : Option Snippet) : LoaderCall where
  function := u.loader
  shareScope := u.options.shareScope.primary
  shareKey := u.options.shareKey
  requiredVersion := u.options.requiredRange?.map VersionRange.text
  fallback := fallback.map Snippet.text

def consumeCode (u : SharedUnit) (g : ChunkGraph) : GeneratedCode :=
  let d := u.options
  let fallback := d.fallback?.map (Code.factory g d.eager)
  let source := fallback.getD (Code.missingFallback d.shareKey)
  let call := u.loaderCall fallback
  { sources := [(.consumeShared, source.text)]
    requirements := { source with needs := .shareScopeMap :: source.needs }.requirements
    data :=
      [(SourceType.consumeShared.name, d.toJson), ("loader-call", .string call.text)]
    loaderCall := some call }

/-- The version that a module is registered with in generated code. -/
def registeredVersion (d : ShareDescriptor) : String := d.version.value?.elim "0" Version.text

/-- The statement that registers a module. -/
def initCode (d : ShareDescriptor) (factory : List Char) : List Char :=
  "register(".toList ++ ", ".toList.intercalate
    ([Code.literal d.shareKey, Code.literal (registeredVersion d), factory] ++
      if d.eager then [['1']] else []) ++ ");".toList

/-- When provided modules are registered. -/
def initStage : Nat := 10

def provideCode (u : SharedUnit) (g : ChunkGraph) : GeneratedCode :=
  let d := u.options
  let factory := Code.factory g d.eager u.providedRequest
  let init := String.ofList (initCode d factory.code)
  { requirements := { factory with needs := .initializeSharing :: factory.needs }.requirements
    data :=
      [(SourceType.shareInit.name, .array [.object
        [("shareScope", .string d.shareScope.primary), ("initStage", .ofNat initStage),
          ("init", .string init)]])]
    init := some init }

def generate (u : SharedUnit) (g : ChunkGraph) : GeneratedCode :=
  match u.kind with
  | .consume => u.consumeCode g
  | .provide => u.provideCode g

/-! ## Stored form -/

private def listed {α : Type} (key : String) (f : α → Json) (xs : List α) : List (String × Json) :=
  if xs.isEmpty then [] else [(key, .array (xs.map f))]

def toJson (u : SharedUnit) : Json :=
  .object <|
    [("type", .string u.kind.name), ("options", u.options.toJson)] ++
    optional "layer" .string u.layer ++
    optional "build_info" (fun hash => .object [("hash", .string hash)]) u.buildHash ++
    listed "dependencies" Dependency.toJson u.dependencies ++
    listed "blocks" AsyncBlock.toJson u.blocks

private def buildInfo : Decoder String :=
  (Record.required "hash" .text).decoder "BuildInfo" .ignored

def record (kind : ShareKind) : Record SharedUnit :=
  SharedUnit.mk kind <$> .required "options" ShareDescriptor.decoder
    <*> .optional "layer" .text
    <*> .optional "build_info" buildInfo
    <*> .defaulted "dependencies" [] (.list Dependency.decoder)
    <*> .defaulted "blocks" [] (.list AsyncBlock.decoder)

def decoder : Decoder SharedUnit :=
  .tagged "type" (.variant ShareKind.names) fun kind => (record kind).decoder "SharedUnit" .ignored

def parse (content : String) : Except DecodeError SharedUnit := decodeText decoder content

end SharedUnit

end ModuleSharing
