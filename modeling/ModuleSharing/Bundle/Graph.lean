import ModuleSharing.Bundle.Unit

/-!
# The module graph

The shared units of one build and the local modules they depend on.  A unit is in the graph once; a
local module gets a place when the units are linked.  `ModuleGraph.chunkGraph` puts modules that
some unit needs at once into the initial chunk, and every other one into a chunk of its own.
-/

namespace ModuleSharing

inductive GraphNode where
  | shared (unit : SharedUnit)
  /-- A local module, with its file if there is one. -/
  | local (request : String) (path : Option String)
deriving DecidableEq, Repr

/-- How a unit depends on a local module. -/
inductive LinkKind where
  | atOnce
  | deferred
deriving DecidableEq, Repr

/-- A dependency between two places of the graph. -/
structure Link where
  source : Nat
  target : Nat
  kind : LinkKind
deriving DecidableEq, Repr

/-- Nodes are known by their places in the order of insertion. -/
structure ModuleGraph where
  nodes : List GraphNode := []
  links : List Link := []
deriving DecidableEq, Repr

namespace GraphNode

def unit? : GraphNode → Option SharedUnit
  | shared u => some u
  | .local _ _ => none

def local? : GraphNode → Option (String × Option String)
  | shared _ => none
  | .local request path => some (request, path)

def isUnit (identifier : String) (n : GraphNode) : Bool := n.unit?.any (·.identifier == identifier)

def isLocal (request : String) (n : GraphNode) : Bool := n.local?.any (·.1 == request)

/-- Builds a unit that needs it. -/
def build : GraphNode → GraphNode
  | shared u => shared (if u.needBuild then u.build else u)
  | n => n

end GraphNode

namespace ModuleGraph

/-- The units in the order of insertion. -/
def units (g : ModuleGraph) : List SharedUnit := g.nodes.filterMap GraphNode.unit?

/-- The requests of local modules with their files. -/
def locals (g : ModuleGraph) : List (String × Option String) := g.nodes.filterMap GraphNode.local?

def unit? (g : ModuleGraph) (identifier : String) : Option SharedUnit :=
  g.units.find? (·.identifier == identifier)

/-- Adds a unit unless its identifier is known. The result says where it is and whether it is new.
-/
def addUnit (g : ModuleGraph) (u : SharedUnit) : Nat × Bool × ModuleGraph :=
  match g.nodes.findIdx? (·.isUnit u.identifier) with
  | some i => (i, false, g)
  | none => (g.nodes.length, true, { g with nodes := g.nodes ++ [.shared u] })

/-! ## Building and linking -/

/-- The requests that a unit depends on. -/
def wanted (u : SharedUnit) : List (String × LinkKind) :=
  u.dependencies.map (fun d => (d.request, .atOnce)) ++
    u.blocks.flatten.map fun d => (d.request, .deferred)

/-- The place of a local module; `resolve` finds the file of a new one. -/
def placeLocal (g : ModuleGraph) (resolve : String → Option String) (request : String) :
    Nat × ModuleGraph :=
  match g.nodes.findIdx? (·.isLocal request) with
  | some i => (i, g)
  | none => (g.nodes.length, { g with nodes := g.nodes ++ [.local request (resolve request)] })

/-- Links a unit to a local module; of several links between two places the first is kept. -/
def link (resolve : String → Option String) (g : ModuleGraph) (source : Nat) (request : String)
    (kind : LinkKind) : ModuleGraph :=
  let (target, g) := g.placeLocal resolve request
  if g.links.any fun l => l.source == source && l.target == target then g
  else { g with links := g.links ++ [⟨source, target, kind⟩] }

/-- The links that the units ask for, in order. -/
def wantedLinks (g : ModuleGraph) : List (Nat × String × LinkKind) :=
  g.nodes.zipIdx.flatMap fun (n, i) =>
    (n.unit?.elim [] wanted).map fun (request, kind) => (i, request, kind)

/-- The identifiers of the units that need to be built, in ascending order. -/
def pending (g : ModuleGraph) : List String :=
  ((g.units.filter SharedUnit.needBuild).map SharedUnit.identifier).mergeSort
    fun a b => (compare a b).isLE

/-- Builds the units that need it and links all units to their local modules. -/
def build (g : ModuleGraph) (resolve : String → Option String) : ModuleGraph :=
  let built := { g with nodes := g.nodes.map GraphNode.build }
  built.wantedLinks.foldl
    (fun g (source, request, kind) => link resolve g source request kind) built

/-! ## Chunks -/

/-- Whether a unit depends at once on what is in this place. -/
def isAtOnce (g : ModuleGraph) (place : Nat) : Bool :=
  g.links.any fun l => l.target == place && l.kind == .atOnce

/-- Adds what is known about the local module in a place to a chunk graph. -/
def assign (g : ModuleGraph) (base : String) (chunks : ChunkGraph) : GraphNode × Nat → ChunkGraph
  | (.local request (some path), place) =>
    let id := Path.shorten base path
    (chunks.insertModule request id).addChunk request
      (if g.isAtOnce place then initialChunk else chunkName id)
  | _ => chunks

/-- Ids and chunks of the local modules, with paths as seen from the folder `base`. -/
def chunkGraph (g : ModuleGraph) (base : String) : ChunkGraph :=
  g.nodes.zipIdx.foldl (g.assign base) {}

end ModuleGraph

end ModuleSharing
