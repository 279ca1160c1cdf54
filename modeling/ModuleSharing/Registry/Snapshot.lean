import ModuleSharing.Files.Failure
import ModuleSharing.Registry.Basic

/-!
# Registry snapshots

A snapshot lists the versions registered for each scope and key, and the version that is activated:

```json
{
  "default": {
    "react": ["17.0.2", { "version": "18.2.0", "from": "shop", "eager": true }],
    "react-dom": { "versions": ["18.2.0"], "activated": "18.2.0" }
  }
}
```

`Snapshot.toRegistry` registers all of it.
-/

namespace ModuleSharing

open Json

/-- A version as a snapshot lists it. -/
structure ListedVersion where
  version : String
  origin : String := ""
  eager : Bool := false
deriving DecidableEq, Repr

/-- What a snapshot says about one key. -/
structure ListedKey where
  versions : List ListedVersion
  activated : Option String := none
deriving DecidableEq, Repr

abbrev Snapshot := Dictionary String (Dictionary String ListedKey)

namespace ListedVersion

def record : Record ListedVersion :=
  ListedVersion.mk <$> .required "version" .text <*> .defaulted "from" "" .text
    <*> .defaulted "eager" false .bool

def decoder : Decoder ListedVersion :=
  .choice "EntrySnapshot"
    [fun d => (Decoder.text d).map fun version => { version }, record.objectDecoder "" .ignored]

/-- The module that stands for a listed version. -/
def module (v : ListedVersion) (key : String) : Json :=
  .object [("key", .string key), ("version", .string v.version), ("from", .string v.origin)]

end ListedVersion

namespace ListedKey

def record : Record ListedKey :=
  ListedKey.mk <$> .required "versions" (.list ListedVersion.decoder)
    <*> .optional "activated" .text

def decoder : Decoder ListedKey :=
  .choice "KeySnapshot"
    [fun d => (Decoder.list ListedVersion.decoder d).map fun versions => { versions },
      record.objectDecoder "" .ignored]

end ListedKey

private def version (s : String) : Except LoadError Version :=
  (Version.parse s).mapError .malformed

namespace Registry

/-- Registers the versions listed for an address. -/
def registerListed (a : Address) (r : Registry Json) :
    List ListedVersion → Except LoadError (Registry Json)
  | [] => .ok r
  | v :: vs => do
    registerListed a (r.register a (← version v.version) v.origin (.ok (v.module a.key)) v.eager) vs

/-- Registers what a snapshot says about one address. -/
def addKey (r : Registry Json) (a : Address) (k : ListedKey) :
    Except LoadError (Registry Json) := do
  let r ← registerListed a r k.versions
  match k.activated with
  | none => .ok r
  | some active =>
    let (result, r) := r.activate a (← version active)
    result
    .ok r

end Registry

namespace Snapshot

def decoder : Decoder Snapshot := fun d =>
  (Decoder.members (fun d => (Decoder.members ListedKey.decoder d).map Dictionary.ofList) d).map
    Dictionary.ofList

def parse (content : String) : Except DecodeError Snapshot := decodeText decoder content

def load (files : Files) (path : String) : Except FileError Snapshot :=
  FileError.under ("invalid registry snapshot: " ++ path) do
    let content ← FileError.under ("failed to read file: " ++ path)
      (FileError.ofPath (files.read path))
    FileError.under ("failed to parse JSON: " ++ path) (FileError.ofJson (parse content))

/-- The addresses of a snapshot with what is said about them, in ascending order. -/
def listings (s : Snapshot) : List (Address × ListedKey) :=
  s.toList.flatMap fun (scope, keys) => keys.toList.map fun (key, k) => (⟨scope, key⟩, k)

/-- The registry with all that a snapshot lists. -/
def toRegistry (s : Snapshot) : Except LoadError (Registry Json) :=
  s.listings.foldlM (fun r (a, k) => r.addKey a k) .empty

end Snapshot

end ModuleSharing
