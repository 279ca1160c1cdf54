import ModuleSharing.Build.Cache
import ModuleSharing.Build.Prepare
import ModuleSharing.Build.Report
import ModuleSharing.Bundle.Graph
import ModuleSharing.Child.Coordinator

/-!
# Running a build

The declarations of a configuration are normalized, prepared, built into units and turned into code.
With a cache, units that were built before are used again.  Child builds do the same for the
configurations of their containers and run next to each other.
-/

namespace ModuleSharing

/-! ## Declarations to code -/

/-- A build under way: its units and what it has reported. -/
structure Pipeline where
  graph : ModuleGraph := {}
  events : List BuildEvent := []

/-- What a build of some descriptors comes to. -/
structure PipelineResult where
  graph : ModuleGraph
  units : List BuiltUnit
  events : List BuildEvent

namespace Pipeline

variable (files : Files) (context : String) (cache : Option BuildCache)

/-- The unit that is put into the graph: the cached one if there is one. -/
def cachedUnit (u : SharedUnit) : SharedUnit :=
  (cache.bind fun c => c.unit? u.identifier).getD u

/-- Prepares one more descriptor. -/
def add (p : Pipeline) (d : ShareDescriptor) : Pipeline :=
  let preparation := files.prepare context d
  let warned := p.events ++ preparation.warnings.map (.diagnostic .warning)
  match preparation.result with
  | .unit u => { graph := (p.graph.addUnit (cachedUnit cache u)).2.2, events := warned }
  | .skipped reason => { p with events := warned ++ [.unitSkipped d.shareKey reason] }
  | .failed e => { p with events := warned ++ [.diagnostic .error e.message] }

/-- A unit with its code. -/
def finishUnit (chunks : ChunkGraph) (u : SharedUnit) : BuiltUnit where
  identifier := u.identifier
  readable := u.readable context
  libraryName := u.libraryName
  kind := u.options.kind
  fresh := cache.any (·.isFresh u)
  code := u.generate chunks

/-- What is reported about a unit. -/
def unitEvents (u : BuiltUnit) : List BuildEvent :=
  [.unitBuilt u.identifier u.readable u.fresh,
    .codeGenerated u.identifier (u.code.loaderCall.map LoaderCall.text)
      (u.code.sources.head?.map Prod.snd) u.code.init (u.code.requirements.map RuntimeGlobal.name)]

/-- Prepares, builds and generates code for descriptors. -/
def run (descriptors : List ShareDescriptor) : PipelineResult :=
  let prepared := descriptors.foldl (add files context cache) {}
  let graph := prepared.graph.build (files.resolveModule? context)
  let units := graph.units.map (finishUnit context cache (graph.chunkGraph context))
  { graph, units, events := prepared.events ++ units.flatMap unitEvents }

end Pipeline

/-! ## Child builds -/

/-- A configuration error with its cause. -/
def ConfigError.chain : ConfigError → String
  | e@(.version _ _ cause) => e.message ++ ": " ++ cause.message
  | e => e.message

/-- Compiles a child: its declarations go the way of any other build. -/
def compileChild (files : Files) (spec : ChildSpec) : ChildOutcome :=
  match spec.normalize files with
  | .error e => .crashed e.chain
  | .ok descriptors =>
    let result := Pipeline.run files spec.contextDir none descriptors
    .compiled [Path.join spec.output.path spec.federation.remoteEntry]
      { events := result.events : BuildReport }.errors

/-- Builds of the same project that run child builds, servers first. -/
def parentBuilds (context : String) (mode : BuildMode) (targets : List BuildTarget) :
    List ParentBuild :=
  ([BuildTarget.server, .client].filter targets.contains).map fun t =>
    .ofProject t.name mode context

/-- The build that errors at the end are recorded on. -/
def coordinatorName : String := "coordinator"

/-- Runs child builds and reports on them. -/
def runChildren (context : String) (f : Federation) (mode : BuildMode) (targets : List BuildTarget)
    (timeoutMs stamp : Nat) (progress : Progress) : List ChildReport × List BuildEvent :=
  let parents := parentBuilds context mode targets
  let registered := parents.foldl
    (fun (c : Coordinator) parent => (c.register parent (.derive parent f stamp)).2) { timeoutMs }
  let finalized := parents.foldl
    (fun c parent => c.finalize parent (.ofBuildName parent.name) progress) registered
  let (reports, c) := finalized.finish coordinatorName progress
  let errors := (parents.map ParentBuild.name ++ [coordinatorName]).flatMap c.errorsOf
  (reports,
    errors.map (.diagnostic .error) ++
      reports.map fun r => .childFinished r.target.name r.success r.errors)

/-! ## Whole builds -/

structure BuildOptions where
  mode : BuildMode := .development
  /-- Use units of the last build again. -/
  useCache : Bool := false
  /-- The targets of child builds. -/
  children : List BuildTarget := []
  childTimeoutMs : Nat := 300000
deriving DecidableEq, Repr

/-- Why there is no build. -/
inductive BuildError where
  | config (error : ConfigError)
  | file (error : FileError)
deriving DecidableEq, Repr

namespace Federation

/-- Builds a configuration in the project's folder; `stamp` is the time of the build. -/
def build (f : Federation) (files : Files) (context : String) (o : BuildOptions) (stamp : Nat) :
    Except BuildError (BuildReport × Files) := do
  let descriptors ← (f.normalize files context).mapError .config
  let cache ←
    if o.useCache then ((BuildCache.load files context).mapError .file).map some else pure none
  let result := Pipeline.run files context cache descriptors
  let files ←
    match cache with
    | none => pure files
    | some c => ((c.update result.graph.units).save files context).mapError .file
  let (children, childEvents) :=
    runChildren context f o.mode o.children o.childTimeoutMs stamp
      (Coordinator.atOnce (compileChild files))
  let events :=
    .started o.mode.name f.declarationCount :: result.events ++ childEvents
  let report : BuildReport := { units := result.units, children, events }
  return ({ report with
    events := events ++ [.finished report.success 0 (some result.units.length)] }, files)

end Federation

end ModuleSharing
