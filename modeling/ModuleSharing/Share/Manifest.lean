import ModuleSharing.Dictionary
import ModuleSharing.Files.Failure
import ModuleSharing.Share.Setting

/-!
# Package manifests

The version that a package requires of another, and the version of a package itself, are read from
`package.json` files.  Both searches go up the folders from where they start; module requests are
resolved through `node_modules`.
-/

namespace ModuleSharing

open Json

/-- The file a package is described in. -/
def manifestName : String := "package.json"

/-- Package names with the ranges declared for them. -/
abbrev Dependencies := Dictionary String String

/-- The fields of a package manifest that sharing looks at. -/
structure Manifest where
  name : Option String := none
  version : Option String := none
  main : Option String := none
  dependencies : Dependencies := .empty
  peerDependencies : Dependencies := .empty
  optionalDependencies : Dependencies := .empty
  devDependencies : Dependencies := .empty
deriving DecidableEq, Repr

namespace Manifest

private def dependencyList : Decoder Dependencies := fun d =>
  (Decoder.members .text d).map Dictionary.ofList

def record : Record Manifest :=
  Manifest.mk <$> .optional "name" .text <*> .optional "version" .text <*> .optional "main" .text
    <*> .defaulted "dependencies" .empty dependencyList
    <*> .defaulted "peerDependencies" .empty dependencyList
    <*> .defaulted "optionalDependencies" .empty dependencyList
    <*> .defaulted "devDependencies" .empty dependencyList

def parse (content : String) : Except DecodeError Manifest :=
  decodeText (record.decoder "PackageJson" .ignored) content

def load (files : Files) (path : String) : Except FileError Manifest := do
  let content ← FileError.under ("failed to read manifest: " ++ path)
    (FileError.ofPath (files.read path))
  FileError.under ("failed to parse manifest: " ++ path) (FileError.ofJson (parse content))

/-- The manifest nearest to a folder, unless it cannot be read. -/
def nearest? (files : Files) (dir : String) : Option (String × Manifest) := do
  let path ← files.findUpwards? dir manifestName
  let manifest ← (load files path).toOption
  return (path, manifest)

/-- The lists of dependencies, in the order in which they are looked at. -/
def sections (m : Manifest) : List Dependencies :=
  [m.dependencies, m.peerDependencies, m.optionalDependencies, m.devDependencies]

/-- The range declared for a package, from the first list that mentions it. -/
def declared? (m : Manifest) (package : String) : Option String :=
  m.sections.findSome? (·.get? package)

/-- The package's own version, if it is one. -/
def version? (m : Manifest) : Option Version := m.version.bind fun v => (Version.parse v).toOption

end Manifest

/-! ## Module requests -/

namespace Specifier

/-- Whether a request names a package and not a path. -/
def isBare (request : String) : Bool :=
  match request.toList with
  | [] => false
  | c :: cs => c != '.' && c != '/' && !(c :: cs).contains ':' && !(c :: cs).contains '\\'

/-- Cuts before the first slash after at least `skip` others. -/
def cutAtSlash : Nat → List Char → List Char
  | _, [] => []
  | 0, c :: cs => if c = '/' then [] else c :: cutAtSlash 0 cs
  | skip + 1, c :: cs => c :: cutAtSlash (if c = '/' then skip else skip + 1) cs

/-- The package that a bare request names: its first segment, or two of them if the first starts
with `@`. -/
def packageName? (request : String) : Option String :=
  if !isBare request then none
  else
    let cs := request.toList
    if cs.head? == some '@' then
      if cs.contains '/' then some (String.ofList (cutAtSlash 1 cs)) else none
    else some (String.ofList (cutAtSlash 0 cs))

end Specifier

/-! ## Versions and modules -/

namespace Files

/-- The range that the nearest manifest declares for a package. Without a manifest, a mention of the
package, or a range that can be read, no version is required. -/
def inferRequired (files : Files) (context package : String) : RequiredVersion :=
  match Manifest.nearest? files context with
  | none => .disabled
  | some (_, manifest) =>
    match manifest.declared? package with
    | none => .disabled
    | some declared =>
      match VersionRange.parse declared with
      | .ok range => .value range
      | .error _ => .disabled

/-- The nearest installed copy of a package. -/
def packageFolder? (files : Files) (context package : String) : Option String :=
  ((Path.ancestors context).map fun dir => Path.join (Path.join dir "node_modules") package).find?
    fun dir => files.isFile (Path.join dir manifestName)

/-- The path itself, with `.js`, or the index of the folder, whichever is a file. -/
def resolveFile? (files : Files) (path : String) : Option String :=
  [path, path ++ ".js", Path.join path "index.js"].find? files.isFile

/-- The file that a request stands for. -/
def resolveModule? (files : Files) (context request : String) : Option String :=
  if !Specifier.isBare request then
    if request.toList.contains ':' then none else files.resolveFile? (Path.join context request)
  else do
    let package ← Specifier.packageName? request
    let folder ← files.packageFolder? context package
    let inside := (request.toList.drop package.toList.length).dropWhile (· == '/')
    if !inside.isEmpty then files.resolveFile? (Path.join folder (String.ofList inside))
    else
      let main := (Manifest.load files (Path.join folder manifestName)).toOption.bind Manifest.main
      files.resolveFile? (Path.join folder (main.getD "index.js"))

/-- The version of the package that a file belongs to. -/
def versionOfModule? (files : Files) (path : String) : Option Version := do
  let start ← if files.isFolder path then some path else Path.parent? path
  (← Manifest.nearest? files start).2.version?

end Files

end ModuleSharing
