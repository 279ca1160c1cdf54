import ModuleSharing.Settings

/-!
# Workspaces

Where the tool runs: the folder that paths are resolved against, and the folder with the user's own
settings.  The configuration of a workspace is the nearest one in its folder or above.
-/

namespace ModuleSharing

structure Workspace where
  folder : String
  /-- The folder of the user's settings. -/
  stateHome : String
deriving DecidableEq, Repr

/-- The names of configuration files. -/
def federationFiles : List String := ["federation.json", "federation.toml"]

/-- Why no configuration was found. -/
inductive DiscoveryError where
  | notFound (folder : String)
  | ambiguous (first second : String)
deriving DecidableEq, Repr

namespace DiscoveryError

def message : DiscoveryError → String
  | notFound folder =>
    "could not find federation.json or federation.toml in " ++ folder ++ " or any parent directory"
  | ambiguous first second => "found both " ++ first ++ " and " ++ second ++ "; remove one of them"

end DiscoveryError

namespace Workspace

/-- The workspace of a folder, for a user with the given home. -/
def ofFolder (folder home : String) : Workspace where
  folder
  stateHome := Path.join home stateFolder

def settingsPath (w : Workspace) : String := Path.join w.stateHome "config.toml"

/-- A path as it is meant in the workspace. -/
def resolve (w : Workspace) (path : String) : String := Path.join w.folder path

/-- The configuration in the first of several folders that has one. -/
def findIn (files : Files) (notFound : DiscoveryError) : List String → Except DiscoveryError String
  | [] => .error notFound
  | dir :: dirs =>
    match (federationFiles.map (Path.join dir)).filter files.isFile with
    | [] => findIn files notFound dirs
    | [path] => .ok path
    | first :: second :: _ => .error (.ambiguous first second)

/-- The configuration nearest to the workspace. -/
def findFederation (w : Workspace) (files : Files) : Except DiscoveryError String :=
  findIn files (.notFound w.folder) (Path.ancestors w.folder)

/-- The settings that hold for a project. -/
def settings (w : Workspace) (files : Files) (project : String) : Settings :=
  Settings.ofFiles files w.settingsPath (Path.join (Path.join project stateFolder) "config.toml")

end Workspace

end ModuleSharing
