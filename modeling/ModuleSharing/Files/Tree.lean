import ModuleSharing.Files.Path

/-!
# File trees

Files and folders, and how a path is followed through them: every step, `..` and an empty one at the
end included, needs the place before it to be a folder.

Every file can be read and holds text.  Files whose content is not UTF-8, places that may not be
read or written, and symbolic links are left out.
-/

namespace ModuleSharing

/-- Why a path does not lead to a file that can be read. -/
inductive PathFault where
  | missing
  | notAFolder
  | isAFolder
  | nameTooLong
deriving DecidableEq, Repr

namespace PathFault

def message : PathFault → String
  | missing => "No such file or directory (os error 2)"
  | notAFolder => "Not a directory (os error 20)"
  | isAFolder => "Is a directory (os error 21)"
  | nameTooLong => "File name too long (os error 36)"

end PathFault

inductive FileTree where
  | file (content : String)
  | folder (children : List (String × FileTree))
deriving Inhabited, Repr

namespace FileTree

def isFile : FileTree → Bool
  | file _ => true
  | folder _ => false

def isFolder : FileTree → Bool
  | file _ => false
  | folder _ => true

def child? (t : FileTree) (name : String) : Option FileTree :=
  match t with
  | file _ => none
  | folder children => children.lookup name

/-- A name has at most 255 bytes. -/
def isTooLong (name : String) : Bool := name.utf8ByteSize > 255

/-- Follows the segments of a path from the place `here`; `trail` are the places above it, nearest
first. -/
def follow (trail : List FileTree) (here : FileTree) : List (List Char) → Except PathFault FileTree
  | [] => .ok here
  | segment :: rest =>
    if !here.isFolder then .error .notAFolder
    else if Path.isFiller segment then follow trail here rest
    else if segment = ['.', '.'] then
      match trail with
      | [] => follow [] here rest
      | up :: trail => follow trail up rest
    else
      let name := String.ofList segment
      match here.child? name with
      | none => .error (if isTooLong name then .nameTooLong else .missing)
      | some t => follow (here :: trail) t rest

/-- The place of a path in a tree whose root is `/`. Relative paths start in the folder `here`. -/
def get (root : FileTree) (here path : String) : Except PathFault FileTree :=
  if path.isEmpty then .error .missing
  else follow [] root ((Path.join here path).toList.splitOn '/')

/-- What is at the end of the given names. -/
def at? (t : FileTree) : List String → Option FileTree
  | [] => some t
  | name :: names => (t.child? name).bind (at? · names)

/-- Replaces or adds a child. -/
def setChild (name : String) (t : FileTree) : List (String × FileTree) → List (String × FileTree)
  | [] => [(name, t)]
  | (name', t') :: rest =>
    if name == name' then (name, t) :: rest else (name', t') :: setChild name t rest

/-- Puts a tree at the end of the given names, making folders on the way. A file in the way is a
failure. -/
def put (new : FileTree) : List String → FileTree → Option FileTree
  | [], _ => some new
  | _ :: _, file _ => none
  | name :: names, folder children => do
    let below := (children.lookup name).getD (folder [])
    return folder (setChild name (← put new names below) children)

/-- Takes away what is at the end of the given names. -/
def erase : List String → FileTree → FileTree
  | _, file content => file content
  | [], t => t
  | [name], folder children => folder (children.filter fun c => c.1 != name)
  | name :: names, folder children =>
    match children.lookup name with
    | none => folder children
    | some t => folder (setChild name (erase names t) children)

end FileTree

/-- A file tree and the folder where relative paths start. -/
structure Files where
  root : FileTree
  here : String

namespace Files

def get? (f : Files) (path : String) : Option FileTree := (f.root.get f.here path).toOption

def exists? (f : Files) (path : String) : Bool := (f.get? path).isSome

def isFile (f : Files) (path : String) : Bool := (f.get? path).any FileTree.isFile

def isFolder (f : Files) (path : String) : Bool := (f.get? path).any FileTree.isFolder

/-- The content of a file. -/
def read (f : Files) (path : String) : Except PathFault String := do
  match ← f.root.get f.here path with
  | .file content => .ok content
  | .folder _ => .error .isAFolder

def read? (f : Files) (path : String) : Option String := (f.read path).toOption

/-! ## Changes -/

def segments (f : Files) (path : String) : List (List Char) :=
  ((Path.join f.here path).toList.splitOn '/').filter (!Path.isFiller ·)

/-- Follows segments from the folder with the names `trail`, last one first; with `make`, folders
that are missing are made. The result is the names of the last folder, last one first. -/
def enter (make : Bool) (trail : List String) (root : FileTree) :
    List (List Char) → Except PathFault (List String × FileTree)
  | [] => .ok (trail, root)
  | segment :: rest =>
    if segment = ['.', '.'] then enter make trail.tail root rest
    else
      let trail := String.ofList segment :: trail
      match root.at? trail.reverse with
      | some (.folder _) => enter make trail root rest
      | some (.file _) => .error .notAFolder
      | none =>
        if make then
          match FileTree.put (.folder []) trail.reverse root with
          | some root => enter make trail root rest
          | none => .error .notAFolder
        else .error .missing

/-- Makes a folder and those above it. -/
def makeFolder (f : Files) (path : String) : Except PathFault Files := do
  let (_, root) ← enter true [] f.root (f.segments path)
  return { f with root }

/-- Writes a file into a folder that exists. -/
def write (f : Files) (path content : String) : Except PathFault Files :=
  match (f.segments path).reverse with
  | [] => .error .isAFolder
  | name :: above => do
    let (trail, _) ← enter false [] f.root above.reverse
    if name = ['.', '.'] || f.isFolder path then .error .isAFolder
    else
      match FileTree.put (.file content) (String.ofList name :: trail).reverse f.root with
      | some root => return { f with root }
      | none => .error .notAFolder

/-- Takes away a file or a folder with all that is in it. -/
def erase (f : Files) (path : String) : Files :=
  match (f.segments path).reverse with
  | [] => f
  | name :: above =>
    match enter false [] f.root above.reverse with
    | .ok (trail, _) => { f with root := f.root.erase (String.ofList name :: trail).reverse }
    | .error _ => f

/-! ## Searching upwards -/

/-- The nearest file of this name in a folder or above it. -/
def findUpwards? (f : Files) (start name : String) : Option String :=
  ((Path.ancestors start).map fun dir => Path.join dir name).find? f.isFile

end Files

end ModuleSharing
