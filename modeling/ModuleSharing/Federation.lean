import ModuleSharing.Share.Normalize
import ModuleSharing.Toml.Document

/-!
# Federation configurations

A configuration holds the share declarations of one container and what a child build needs to know
about the container.  `federation.json` and `federation.toml` have the same content.
-/

namespace ModuleSharing

open Json

/-- How the container is exposed. -/
structure Library where
  name : Option String := none
  kind : String := "var"
deriving DecidableEq, Repr

namespace Library

def toJson (l : Library) : Json :=
  .object (optional "name" .string l.name ++ [("type", .string l.kind)])

def record : Record Library :=
  Library.mk <$> .optional "name" .text <*> .defaulted "type" "var" .text

def decoder (extra : Record.Extra) : Decoder Library := record.decoder "LibraryOptions" extra

end Library

structure Federation where
  name : Option String := none
  filename : Option String := none
  library : Option Library := none
  shareScope : Option ShareScope := none
  exposes : List (String × Json) := []
  remotes : List (String × Json) := []
  shared : Option Json := none
  provides : Option Json := none
  consumes : Option Json := none
  /-- Leave the framework's own modules out of `shared`. -/
  skipSharingNextInternals : Bool := false
deriving BEq

namespace Federation

/-! ## Stored form -/

private def nonEmpty (key : String) (members : List (String × Json)) : List (String × Json) :=
  if members.isEmpty then [] else [(key, .object members)]

def toJson (f : Federation) : Json :=
  .object <|
    [("name", .ofOption .string f.name), ("filename", .ofOption .string f.filename),
      ("library", .ofOption Library.toJson f.library),
      ("shareScope", .ofOption ShareScope.toJson f.shareScope)] ++
    nonEmpty "exposes" f.exposes ++
    nonEmpty "remotes" f.remotes ++
    optional "shared" id f.shared ++
    optional "provides" id f.provides ++
    optional "consumes" id f.consumes ++
    [("skipSharingNextInternals", .bool f.skipSharingNextInternals)]

def record (extra : Record.Extra) : Record Federation :=
  Federation.mk <$> .optional "name" .text
    <*> .optional "filename" .text
    <*> .optional "library" (Library.decoder extra)
    <*> .optional "shareScope" ShareScope.decoder
    <*> .defaulted "exposes" [] .object
    <*> .defaulted "remotes" [] .object
    <*> .optional "shared" .any
    <*> .optional "provides" .any
    <*> .optional "consumes" .any
    <*> .defaulted "skipSharingNextInternals" false .bool

def decoder (extra : Record.Extra) : Decoder Federation :=
  (record extra).decoder "FederationConfig" extra

def parseJson (content : String) : Except FileError Federation :=
  FileError.ofJson (decodeText (decoder .ignored) content)

def parseToml (content : String) : Except FileError Federation :=
  FileError.ofToml (Toml.decode? (decoder .dropped) content)

/-- Loads a configuration; a file that ends in `.toml` is read as TOML and any other as JSON. -/
def load (files : Files) (path : String) : Except FileError Federation := do
  let content ← FileError.under ("failed to read " ++ path) (FileError.ofPath (files.read path))
  FileError.under ("failed to parse " ++ path) <|
    if Path.extension? path = some "toml" then parseToml content else parseJson content

/-! ## Its content -/

def containerName (f : Federation) : String := f.name.getD "app"

/-- The file that remote containers load. -/
def remoteEntry (f : Federation) : String := f.filename.getD "remoteEntry.js"

def normalizer (f : Federation) (files : Files) (context : String) : Normalizer where
  files
  context
  shareScope := f.shareScope.getD .standard

/-- The descriptors of all declarations: `consumes`, `provides`, `shared`. -/
def normalize (f : Federation) (files : Files) (context : String) :
    Except ConfigError (List ShareDescriptor) := do
  let n := f.normalizer files context
  let consumed ← f.consumes.elim (.ok []) n.consumes
  let provided ← f.provides.elim (.ok []) n.provides
  let shared ← f.shared.elim (.ok []) n.shared
  return consumed ++ provided ++ shared

/-- How many declarations a section holds. -/
def sectionSize : Json → Nat
  | .object members => members.length
  | .array items => items.length
  | .string _ => 1
  | _ => 0

/-- How many declarations there are in all sections. -/
def declarationCount (f : Federation) : Nat :=
  ([f.consumes, f.provides, f.shared].filterMap id).foldl (fun n s => n + sectionSize s) 0

/-- The normal form of a configuration as it is shown to a user. -/
def normalizedJson (f : Federation) (descriptors : List ShareDescriptor) : Json :=
  let ofKind (kind : ShareKind) : Json :=
    .array ((descriptors.filter fun d => d.kind = kind).map ShareDescriptor.toJson)
  .object [("name", .string f.containerName), ("consumes", ofKind .consume),
    ("provides", ofKind .provide)]

end Federation

end ModuleSharing
