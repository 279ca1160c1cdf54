import ModuleSharing.Dictionary

/-!
# Chunks

Which id a local module has, and which chunks have to be loaded before it can be used.
-/

namespace ModuleSharing

/-- The chunk that is loaded at startup. -/
def initialChunk : String := "main"

/-- Takes `./` off the front as often as it is there. -/
def dropHere : List Char → List Char
  | '.' :: '/' :: cs => dropHere cs
  | cs => cs

/-- The chunk of a module that has one for itself. -/
def chunkName (moduleId : String) : String :=
  String.ofList ((dropHere moduleId.toList).map fun c => if c.isAlphanum then c else '_')

/-- Module ids and chunks by request. -/
structure ChunkGraph where
  moduleIds : Dictionary String String := .empty
  chunks : Dictionary String (List String) := .empty
deriving DecidableEq, Repr

namespace ChunkGraph

def insertModule (g : ChunkGraph) (request id : String) : ChunkGraph :=
  { g with moduleIds := g.moduleIds.insert request id }

def addChunk (g : ChunkGraph) (request chunk : String) : ChunkGraph :=
  let known := (g.chunks.get? request).getD []
  if known.contains chunk then g
  else { g with chunks := g.chunks.insert request (known ++ [chunk]) }

def moduleId? (g : ChunkGraph) (request : String) : Option String := g.moduleIds.get? request

/-- The chunks to load before a module can be used: none if it is in the initial chunk. -/
def chunksOf (g : ChunkGraph) (request : String) : List String :=
  let known := (g.chunks.get? request).getD []
  if known.contains initialChunk then [] else known

end ChunkGraph

end ModuleSharing
