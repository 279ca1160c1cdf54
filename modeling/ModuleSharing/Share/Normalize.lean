import ModuleSharing.Share.Manifest
import ModuleSharing.Share.Options

/-!
# Normal form of share declarations

A section is a request, a list of requests and maps, or a map from share keys to requests, versions
or options.  Each of these becomes one descriptor an entry; an entry of `shared` becomes a consume
descriptor and, unless its import is switched off, a provide descriptor.
-/

namespace ModuleSharing

open Json

/-! ## Entries -/

/-- One declaration of a section as it is written. -/
inductive ShareEntry where
  | request (request : String)
  | keyed (key value : String)
  | options (key : String) (members : List (String × Json))

def mapEntry (section_ : String) : String × Json → Except ConfigError ShareEntry
  | (key, .string s) => .ok (.keyed key s)
  | (key, .object members) => .ok (.options key members)
  | (key, other) => .error (.entry section_ key (describe other))

def itemEntries (section_ : String) : Json → Except ConfigError (List ShareEntry)
  | .string request => .ok [.request request]
  | .object members => members.mapM (mapEntry section_)
  | other => .error (.shape section_ ("a list containing " ++ describe other))

/-- The declarations of a section, in order. -/
def sectionEntries (section_ : String) : Json → Except ConfigError (List ShareEntry)
  | .string request => .ok [.request request]
  | .array items => do .ok (← items.mapM (itemEntries section_)).flatten
  | .object members => members.mapM (mapEntry section_)
  | other => .error (.shape section_ (describe other))

/-- The share key of a request that is not given one. -/
def keyOfRequest (request : String) : String := (Specifier.packageName? request).getD request

/-! ## Descriptors -/

/-- What declarations are seen against: the files, the folder whose packages count, and the scope of
declarations that name none. -/
structure Normalizer where
  files : Files
  context : String
  shareScope : ShareScope := .standard

namespace Normalizer

/-- The required version of a declaration that does not give one: what the nearest manifest declares
for the package. -/
def inferred (n : Normalizer) (package : Option String) : RequiredVersion :=
  match package with
  | some name => n.files.inferRequired n.context name
  | none => .disabled

def consume (n : Normalizer) (key : String) (o : ConsumeOptions) :
    Except ConfigError ShareDescriptor := do
  let noImport := o.import_.any TextOrFlag.isFalse
  let singleton := o.singleton.getD false
  let request := o.request.getD key
  let fallback :=
    if noImport then none else some ((o.import_.bind TextOrFlag.text?).getD key)
  let given ← readSetting VersionRange.parse key "requiredVersion" o.requiredVersion
  let required :=
    if given.isUnset then
      n.inferred (o.packageName <|> Specifier.packageName? (fallback.getD request))
    else given
  return {
    kind := .consume
    shareKey := o.shareKey.getD key
    shareScope := o.shareScope.getD n.shareScope
    requiredVersion := required
    strictVersion := o.strictVersion.getD (!noImport && !singleton)
    singleton
    eager := o.eager.getD false
    layer := o.layer
    issuerLayer := o.issuerLayer
    fallbackRequest := fallback
    fallbackResolved := o.importResolved
    request
    packageName := o.packageName
    includes := o.includes
    excludes := o.excludes }

def provide (n : Normalizer) (key : String) (o : ProvideOptions) :
    Except ConfigError ShareDescriptor := do
  let version ← readSetting Version.parse key "version" o.version
  let required ← readSetting VersionRange.parse key "requiredVersion" o.requiredVersion
  return {
    kind := .provide
    shareKey := o.shareKey.getD key
    shareScope := o.shareScope.getD n.shareScope
    version
    requiredVersion := required
    strictVersion := o.strictVersion.getD false
    singleton := o.singleton.getD false
    eager := o.eager.getD false
    layer := o.layer
    request := o.request.getD key
    includes := o.includes
    excludes := o.excludes }

/-! ## The section `consumes` -/

/-- A map entry with a text: a version that is required, or else the module to fall back to. -/
def consumeOfText (key value : String) : ConsumeOptions :=
  if value != key && VersionRange.looksLikeOne value then
    { import_ := some (.text key)
      requiredVersion := some (.text value)
      strictVersion := some true }
  else { import_ := some (.text value), strictVersion := some false }

def consumeEntry (n : Normalizer) : ShareEntry → Except ConfigError ShareDescriptor
  | .request request =>
    n.consume (keyOfRequest request)
      { import_ := some (.text request), request := some request, strictVersion := some false }
  | .keyed key value => n.consume key (consumeOfText key value)
  | .options key members => do
    n.consume key (← readOptions ConsumeOptions.record "consumes" key members)

def consumes (n : Normalizer) (section_ : Json) : Except ConfigError (List ShareDescriptor) := do
  (← sectionEntries "consumes" section_).mapM n.consumeEntry

/-! ## The section `provides` -/

def provideEntry (n : Normalizer) : ShareEntry → Except ConfigError ShareDescriptor
  | .request request => n.provide request { shareKey := some (keyOfRequest request) }
  | .keyed request shareKey => n.provide request { shareKey := some shareKey }
  | .options key members => do
    n.provide key (← readOptions ProvideOptions.record "provides" key members)

def provides (n : Normalizer) (section_ : Json) : Except ConfigError (List ShareDescriptor) := do
  (← sectionEntries "provides" section_).mapM n.provideEntry

/-! ## The section `shared` -/

def sharedEntry : ShareEntry → Except ConfigError (String × SharedOptions)
  | .request request => .ok (keyOfRequest request, { import_ := some (.text request) })
  | .keyed key value =>
    if value != key && VersionRange.looksLikeOne value then
      .ok (key, { requiredVersion := some (.text value) })
    else .ok (key, { import_ := some (.text value) })
  | .options key members => do .ok (key, ← readOptions SharedOptions.record "shared" key members)

/-- The consuming side of a shared declaration. -/
def sharedConsume (o : SharedOptions) : ConsumeOptions where
  import_ := o.import_
  shareKey := o.shareKey
  shareScope := o.shareScope
  requiredVersion := o.requiredVersion
  strictVersion := o.strictVersion
  singleton := o.singleton
  eager := o.eager
  layer := o.layer
  issuerLayer := o.issuerLayer
  packageName := o.packageName
  request := o.request
  includes := o.includes
  excludes := o.excludes

/-- The providing side of a shared declaration: its request and options. -/
def sharedProvide (key : String) (o : SharedOptions) : String × ProvideOptions :=
  let request := (o.import_.bind TextOrFlag.text?).getD key
  (request,
    { shareKey := some (o.shareKey.getD key)
      shareScope := o.shareScope
      version := o.version
      requiredVersion := o.requiredVersion
      strictVersion := o.strictVersion
      singleton := o.singleton
      eager := o.eager
      layer := o.layer
      request := some request
      includes := o.includes
      excludes := o.excludes })

/-- Whether a shared declaration provides a module as well. -/
def isProvided (o : SharedOptions) : Bool := !o.import_.any TextOrFlag.isFalse

/-- All consume descriptors in order, then all provide descriptors in order. -/
def shared (n : Normalizer) (section_ : Json) : Except ConfigError (List ShareDescriptor) := do
  let entries ← (← sectionEntries "shared" section_).mapM sharedEntry
  let consumed ← entries.mapM fun (key, o) => n.consume key (sharedConsume o)
  let provided ← (entries.filter fun (_, o) => isProvided o).mapM fun (key, o) =>
    let (request, options) := sharedProvide key o
    n.provide request options
  return consumed ++ provided

end Normalizer

end ModuleSharing
