import ModuleSharing.Pattern.Parser
import ModuleSharing.Share.Descriptor
import ModuleSharing.Text.Split

/-!
# Filters

Whether a declaration's `include` and `exclude` let a resolved module through.  A request pattern is
tried on the request as it is written and on the path that it resolves to; a version filter does
nothing while the version is not known.
-/

namespace ModuleSharing

open Text (ticked)

/-- What a version filter that is no range means. -/
inductive FilterMode where
  /-- It matches nothing. -/
  | consume
  /-- It is an error. -/
  | provide
deriving DecidableEq, Repr

inductive FilterError where
  | pattern (key pattern : String)
  | version (key : String) (error : VersionError)
deriving DecidableEq, Repr

namespace FilterError

def message : FilterError → String
  | pattern key p => "invalid request pattern " ++ ticked p ++ " for " ++ ticked key
  | version key _ => "invalid version filter for " ++ ticked key

end FilterError

inductive FilterOutcome where
  | accept
  | skip (reason : String)
deriving DecidableEq, Repr

/-- The expression between the slashes of a pattern that is one. -/
def expressionText? (pattern : String) : Option String :=
  match Text.afterPrefix? ['/'] pattern.toList with
  | none => none
  | some rest =>
    match Text.beforeSuffix? ['/'] rest with
    | none => none
    | some [] => none
    | some body => some (String.ofList body)

/-- Whether a request is the pattern, starts with it, or is matched by the expression it holds. -/
def requestMatches (key pattern request : String) : Except FilterError Bool :=
  match expressionText? pattern with
  | some body =>
    match Pattern.parse? body with
    | none => .error (.pattern key pattern)
    | some e => .ok (e.isIn request)
  | none => .ok (pattern.toList.isPrefixOf request.toList)

/-- Whether a version is within a range that is given as a text; `none` if it is not known. -/
def versionMatches (key range : String) (version : Option Version) (mode : FilterMode) :
    Except FilterError (Option Bool) :=
  match version with
  | none => .ok none
  | some v =>
    match VersionRange.parse range, mode with
    | .ok r, _ => .ok (some (r.admits v))
    | .error _, .consume => .ok (some false)
    | .error e, .provide => .error (.version key e)

/-- The first of some paths that a pattern matches. -/
def firstMatching (key pattern : String) : List String → Except FilterError (Option String)
  | [] => .ok none
  | p :: ps => do
    if ← requestMatches key pattern p then .ok (some p) else firstMatching key pattern ps

/-- A request as it is written and, once resolved, its path. -/
structure RequestPaths where
  request : String
  resolved : Option String := none
deriving DecidableEq, Repr

namespace RequestPaths

def toList (p : RequestPaths) : List String := p.request :: p.resolved.toList

end RequestPaths

namespace ShareFilter

/-- Why an `include` keeps a module out, if it does. -/
def rejection (f : ShareFilter) (key : String) (paths : RequestPaths) (version : Option Version)
    (mode : FilterMode) : Except FilterError (Option String) := do
  if let some p := f.request then
    if (← firstMatching key p paths.toList).isNone then
      return some ("request " ++ ticked paths.request ++ " is not included by " ++ ticked p)
  if let some r := f.version then
    if (← versionMatches key r version mode) = some false then
      return some ("version is not included by " ++ ticked r)
  return none

/-- Why an `exclude` keeps a module out, if it does. -/
def exclusion (f : ShareFilter) (key : String) (paths : RequestPaths) (version : Option Version)
    (mode : FilterMode) : Except FilterError (Option String) := do
  if let some p := f.request then
    if let some matched ← firstMatching key p paths.toList then
      return some ("request " ++ ticked matched ++ " is excluded by " ++ ticked p)
  if let some r := f.version then
    if (← versionMatches key r version mode) = some true then
      return some ("version is excluded by " ++ ticked r)
  return none

end ShareFilter

namespace ShareDescriptor

/-- What the filters of a declaration say about a resolved module. -/
def filter (d : ShareDescriptor) (paths : RequestPaths) (version : Option Version)
    (mode : FilterMode) : Except FilterError FilterOutcome := do
  if let some f := d.includes then
    if let some reason ← f.rejection d.shareKey paths version mode then return .skip reason
  if let some f := d.excludes then
    if let some reason ← f.exclusion d.shareKey paths version mode then return .skip reason
  return .accept

end ShareDescriptor

end ModuleSharing
