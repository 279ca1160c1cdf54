/-!
# Paths

A path is a text with slashes.  Joining and taking the parent work on the text alone: `.` and empty
segments stay where they are written, but they are no places of their own, so the parent of `a/./b/`
is `a`.
-/

namespace ModuleSharing.Path

/-! ## Joining -/

def isAbsolute (p : String) : Bool := p.toList.head? == some '/'

/-- The path `q` seen from the folder `p`; an absolute `q` stands for itself. -/
def join (p q : String) : String :=
  if isAbsolute q then q
  else if p.toList.isEmpty || p.toList.getLast? == some '/' then p ++ q
  else p ++ "/" ++ q

/-! ## Parents -/

/-- Segments that name no place of their own. -/
def isFiller (segment : List Char) : Bool := segment = [] || segment = ['.']

/-- The start of a path that is not made of segments (the root, or a leading `.`), and the rest. -/
def cutLead : List Char → List Char × List Char
  | '/' :: rest => (['/'], rest)
  | ['.'] => (['.'], [])
  | '.' :: '/' :: rest => (['.'], '/' :: rest)
  | cs => ([], cs)

/-- A path from its lead and its segments, last one first. -/
def assemble (lead : List Char) (reversed : List (List Char)) : String :=
  String.ofList (lead ++ ['/'].intercalate (reversed.dropWhile isFiller).reverse)

/-- The places above a path that is given by its lead and its segments, last one first. -/
def above (lead : List Char) : List (List Char) → List String
  | [] => if lead = ['.'] then [""] else []
  | segment :: rest =>
    if isFiller segment then above lead rest else assemble lead rest :: above lead rest

/-- The path itself and all places above it, up to the root. -/
def ancestors (p : String) : List String :=
  let (lead, body) := cutLead p.toList
  p :: above lead (body.splitOn '/').reverse

def parent? (p : String) : Option String := (ancestors p)[1]?

/-! ## Components -/

/-- The root, the leading `.`, and the segments that count. -/
def components (p : String) : List String :=
  let (lead, body) := cutLead p.toList
  (if lead.isEmpty then [] else [String.ofList lead]) ++
    ((body.splitOn '/').filter (!isFiller ·)).map String.ofList

def ofComponents (cs : List String) : String := cs.foldl join ""

/-- The last segment, unless it leads back. -/
def fileName? (p : String) : Option String :=
  let (_, body) := cutLead p.toList
  match (body.splitOn '/').reverse.dropWhile isFiller with
  | [] => none
  | segment :: _ => if segment = ['.', '.'] then none else some (String.ofList segment)

/-- What follows the last dot of a file name, if anything stands before it. -/
def extension? (p : String) : Option String := do
  let reversed := (← fileName? p).toList.reverse
  match reversed.dropWhile (· != '.') with
  | _ :: _ :: _ => some (String.ofList (reversed.takeWhile (· != '.')).reverse)
  | _ => none

/-! ## Relative paths -/

/-- What leads from the end of `base` to the end of `path`, after a common beginning. -/
private def relativeParts (atStart : Bool) : List String → List String → Option (List String)
  | [], base => some (base.map fun _ => "..")
  | path, [] => some path
  | a :: path, b :: base =>
    if atStart && a == b then relativeParts true path base
    else if b == "." then (relativeParts false path base).map (a :: ·)
    else if b == ".." then none
    else some (".." :: (base.map fun _ => "..") ++ a :: path)

/-- A path as seen from `base`. An absolute path cannot be seen from a relative base and stays. -/
def relativeTo? (path base : String) : Option String :=
  if isAbsolute path == isAbsolute base then
    (relativeParts true (components path) (components base)).map ofComponents
  else if isAbsolute path then some path
  else none

/-- An absolute path as seen from `base`, with slashes only; a path below `base` starts with `./`.
-/
def shorten (base path : String) : String :=
  if !isAbsolute path then path
  else
    match relativeTo? path base with
    | none => path
    | some relative =>
      let cs := relative.toList.map fun c => if c = '\\' then '/' else c
      if cs.take 2 = ['.', '.'] then String.ofList cs else String.ofList ('.' :: '/' :: cs)

end ModuleSharing.Path
