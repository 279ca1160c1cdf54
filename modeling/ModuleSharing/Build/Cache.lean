import ModuleSharing.Bundle.Unit
import ModuleSharing.Files.Failure
import ModuleSharing.Settings

/-!
# The build cache

What a build leaves for the next one: its units, which are used again under the same identifier, and
the fingerprints of all units so far, which tell whether a unit is as it was.
-/

namespace ModuleSharing

open Json

structure BuildCache where
  units : List SharedUnit := []
  /-- Fingerprints by identifier. -/
  fingerprints : Dictionary String String := .empty
deriving DecidableEq, Repr

namespace BuildCache

/-- The unit with an identifier, if it was built. -/
def unit? (c : BuildCache) (identifier : String) : Option SharedUnit :=
  c.units.find? fun u => !u.needBuild && u.identifier == identifier

/-- Whether a unit has the fingerprint it had before. -/
def isFresh (c : BuildCache) (u : SharedUnit) : Bool :=
  c.fingerprints.get? u.identifier == some u.hash

/-- The cache after a build of some units. -/
def update (c : BuildCache) (units : List SharedUnit) : BuildCache where
  units
  fingerprints := units.foldl (fun known u => known.insert u.identifier u.hash) c.fingerprints

/-! ## Files -/

def folder (context : String) : String := Path.join context stateFolder

def unitsPath (context : String) : String := Path.join (folder context) "units.json"

def fingerprintsPath (context : String) : String := Path.join (folder context) "fingerprints.json"

/-- The files that a cache is kept in. -/
def paths (context : String) : List String := [unitsPath context, fingerprintsPath context]

def unitsToJson (units : List SharedUnit) : Json :=
  .object [("units", .array (units.map SharedUnit.toJson))]

def fingerprintsToJson (known : Dictionary String String) : Json :=
  .object [("units", .object (known.toList.map fun (k, v) => (k, .string v)))]

def unitsDecoder : Decoder (List SharedUnit) :=
  (Record.required "units" (.list SharedUnit.decoder)).decoder "UnitCache" .ignored

def fingerprintsDecoder : Decoder (Dictionary String String) :=
  (Record.required "units" fun d => (Decoder.members .text d).map .ofList).decoder
    "FingerprintCache" .ignored

/-- The content of a cache file; none if there is no such file. -/
def loadPart {α : Type} (files : Files) (path what : String) (dec : Decoder α) :
    Except FileError (Option α) :=
  if !files.exists? path then .ok none
  else do
    let content ← FileError.ofPath (files.read path)
    let a ← FileError.under ("corrupt " ++ what ++ " cache: " ++ path)
      (FileError.ofJson (decodeText dec content))
    return some a

/-- The cache of the project in a folder. -/
def load (files : Files) (context : String) : Except FileError BuildCache := do
  let units ← loadPart files (unitsPath context) "unit" unitsDecoder
  let known ← loadPart files (fingerprintsPath context) "fingerprint" fingerprintsDecoder
  return { units := units.getD [], fingerprints := known.getD .empty }

/-- Writes a cache file. -/
def savePart (files : Files) (path content : String) : Except FileError Files :=
  FileError.under ("failed to write file: " ++ path) (FileError.ofPath (files.write path content))

def save (c : BuildCache) (files : Files) (context : String) : Except FileError Files := do
  let dir := folder context
  let files ←
    if files.exists? dir then pure files
    else
      FileError.under ("failed to create directory: " ++ dir)
        (FileError.ofPath (files.makeFolder dir))
  let files ← savePart files (unitsPath context) (unitsToJson c.units).compact
  savePart files (fingerprintsPath context) (fingerprintsToJson c.fingerprints).pretty

end BuildCache

end ModuleSharing
