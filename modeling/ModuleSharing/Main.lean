import ModuleSharing.CommandLine.Run

/-!
# The tool

Reads the files around the folder of work into a file tree, runs the command on it, writes the files
that the command wrote and prints what it printed.
-/

namespace ModuleSharing.CommandLine

/-- The entry of a path, as the listing of its folder shows it. -/
def entryOf (path : String) : IO.FS.DirEntry where
  root := (Path.parent? path).getD "/"
  fileName := (Path.fileName? path).getD ""

/-- Reads a file or a whole folder. A file that is no text counts as an empty one. -/
partial def readTree (entry : IO.FS.DirEntry) : IO FileTree := do
  if ← entry.path.isDir then
    let entries ← entry.path.readDir
    let children ← entries.toList.mapM fun e => return (e.fileName, ← readTree e)
    return .folder children
  else
    let content ← try IO.FS.readFile entry.path catch _ => pure ""
    return .file content

/-- Adds what is at a path to a tree, if there is anything. -/
def addPlace (root : FileTree) (path : String) : IO FileTree := do
  let entry := entryOf path
  if ← entry.path.pathExists then
    let names := (Path.components path).filter (· != "/")
    return (FileTree.put (← readTree entry) names root).getD root
  else return root

/-- Adds what a search upwards may find in a folder. -/
def addLevel (root : FileTree) (folder : String) : IO FileTree :=
  (federationFiles ++ ["package.json", "node_modules"]).foldlM
    (fun root name => addPlace root (Path.join folder name)) root

/-- The text that an argument gives, without the name of an option. -/
def valueOf (argument : String) : String :=
  if isOption argument && argument.contains '=' then
    String.ofList (argument.toList.dropWhile (· != '=')).tail
  else argument

/-- The folder of the file that an argument names, if it names one outside the workspace. -/
def namedFolder? (w : Workspace) (argument : String) : IO (Option String) := do
  let path := w.resolve (valueOf argument)
  try
    let place ← IO.FS.realPath path
    return (Path.parent? place.toString).filter fun folder =>
      !(Path.ancestors folder).contains w.folder
  catch _ => return none

/-- The files that a command may use: those of the workspace, those beside a file that is named, and
what a search upwards may find. -/
def readFiles (w : Workspace) (arguments : List String) : IO Files := do
  let folders := w.folder :: (← arguments.filterMapM (namedFolder? w))
  let root ← (folders.flatMap fun path => (Path.ancestors path).tail).foldlM addLevel (.folder [])
  let root ← (folders ++ [w.stateHome]).foldlM addPlace root
  return { root, here := w.folder }

def writeFiles (outcome : Outcome) : IO Unit :=
  outcome.written.forM fun path => do
    let content := (outcome.files.read? path).getD ""
    (Path.parent? path).forM fun folder => IO.FS.createDirAll folder
    IO.FS.writeFile path content

end ModuleSharing.CommandLine

open ModuleSharing ModuleSharing.CommandLine in
def main (arguments : List String) : IO UInt32 := do
  let folder ← IO.currentDir
  let home ← IO.getEnv "HOME"
  let w := Workspace.ofFolder folder.toString (home.getD "/")
  let files ← readFiles w arguments
  let outcome := run w files arguments (← IO.monoMsNow)
  writeFiles outcome
  IO.print outcome.stdout
  IO.eprint outcome.stderr
  return outcome.exit.toUInt32
