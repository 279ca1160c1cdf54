import ModuleSharing.Share.Scope
import ModuleSharing.Share.Setting

/-!
# Share descriptors

What every form of a declaration is turned into.  A consume and a provide declaration have the same
fields; `kind` tells them apart.  `ShareDescriptor.toJson` and `ShareDescriptor.decoder` fix the
form in which descriptors are stored.
-/

namespace ModuleSharing

open Json

inductive ShareKind where
  | consume
  | provide
deriving DecidableEq, Repr

namespace ShareKind

def name : ShareKind → String
  | consume => "consume"
  | provide => "provide"

def names : List (String × ShareKind) := [(consume.name, consume), (provide.name, provide)]

def decoder : Decoder ShareKind := .name names

end ShareKind

/-- What a declaration includes or excludes. -/
structure ShareFilter where
  /-- A range for the version of the resolved module. -/
  version : Option String := none
  /-- A request, the beginning of one, or a regular expression between slashes. -/
  request : Option String := none
deriving DecidableEq, Repr

namespace ShareFilter

def toJson (f : ShareFilter) : Json :=
  .object (optional "version" .string f.version ++ optional "request" .string f.request)

def record : Record ShareFilter :=
  ShareFilter.mk <$> .optional "version" .text <*> .optional "request" .text

def decoder : Decoder ShareFilter := record.decoder "ShareFilter" .refused

end ShareFilter

structure ShareDescriptor where
  kind : ShareKind
  shareKey : String
  shareScope : ShareScope := .standard
  version : ProvidedVersion := .unset
  requiredVersion : RequiredVersion := .unset
  strictVersion : Bool := false
  singleton : Bool := false
  eager : Bool := false
  layer : Option String := none
  issuerLayer : Option String := none
  /-- The consumer's own module, for when no shared version fits. -/
  fallbackRequest : Option String := none
  /-- The path that the consumer's own module resolves to. -/
  fallbackResolved : Option String := none
  /-- What is matched against imports, or the module that is registered. -/
  request : String
  packageName : Option String := none
  includes : Option ShareFilter := none
  excludes : Option ShareFilter := none
deriving DecidableEq, Repr

namespace ShareDescriptor

/-- A consume declaration with every option at its default. -/
def consume (shareKey : String) : ShareDescriptor :=
  { kind := .consume, shareKey, request := shareKey }

/-- A declaration that registers `request` under `shareKey`. -/
def provide (request shareKey : String) : ShareDescriptor := { kind := .provide, shareKey, request }

def requiredRange? (d : ShareDescriptor) : Option VersionRange := d.requiredVersion.value?

/-- Strictness means nothing without a range. -/
def effectiveStrict (d : ShareDescriptor) : Bool := d.strictVersion && d.requiredRange?.isSome

/-- The fallback that is bundled: the resolved path if there is one. -/
def fallback? (d : ShareDescriptor) : Option String := d.fallbackResolved <|> d.fallbackRequest

/-- The version a module is registered with, once the version of its own package is known. -/
def effectiveVersion (d : ShareDescriptor) (inferred : Option Version) : ProvidedVersion :=
  match d.version, inferred with
  | .unset, some v => .value v
  | version, _ => version

/-! ## Stored form -/

def toJson (d : ShareDescriptor) : Json :=
  .object <|
    [("kind", .string d.kind.name), ("shareKey", .string d.shareKey),
      ("shareScope", d.shareScope.toJson)] ++
    d.version.member "version" Version.text ++
    d.requiredVersion.member "requiredVersion" VersionRange.text ++
    [("strictVersion", .bool d.strictVersion), ("singleton", .bool d.singleton),
      ("eager", .bool d.eager)] ++
    optional "layer" .string d.layer ++
    optional "issuerLayer" .string d.issuerLayer ++
    optional "import" .string d.fallbackRequest ++
    optional "importResolved" .string d.fallbackResolved ++
    [("request", .string d.request)] ++
    optional "packageName" .string d.packageName ++
    optional "include" ShareFilter.toJson d.includes ++
    optional "exclude" ShareFilter.toJson d.excludes

def record : Record ShareDescriptor :=
  ShareDescriptor.mk <$> .required "kind" ShareKind.decoder
    <*> .required "shareKey" .text
    <*> .defaulted "shareScope" .standard ShareScope.decoder
    <*> .defaulted "version" .unset (Setting.decoder Version.parse)
    <*> .defaulted "requiredVersion" .unset (Setting.decoder VersionRange.parse)
    <*> .defaulted "strictVersion" false .bool
    <*> .defaulted "singleton" false .bool
    <*> .defaulted "eager" false .bool
    <*> .optional "layer" .text
    <*> .optional "issuerLayer" .text
    <*> .optional "import" .text
    <*> .optional "importResolved" .text
    <*> .required "request" .text
    <*> .optional "packageName" .text
    <*> .optional "include" ShareFilter.decoder
    <*> .optional "exclude" ShareFilter.decoder

def decoder : Decoder ShareDescriptor := record.decoder "ShareDescriptor" .ignored

end ShareDescriptor

end ModuleSharing
