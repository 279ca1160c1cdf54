import ModuleSharing.Child.Registry

/-!
# Coordination of child builds

One thread registers children, waits for them and collects their reports, while each child runs on a
thread of its own.  What the other threads do is a list of `Happening`s: a `Progress` says which of
them fall into each wait, so the functions below cover every order of events.

In development a child starts when it is registered.  In production a server starts only when
another child waits for it, or at the end.  Failures are recorded under the name of the parent build
and never returned.
-/

namespace ModuleSharing

/-- How the compiler of a child came to its end. -/
inductive ChildOutcome where
  | compiled (assets errors : List String)
  /-- It could not run. -/
  | crashed (reason : String)
  | panicked (reason : Option String)
deriving DecidableEq, Repr

namespace ChildOutcome

def assets : ChildOutcome → List String
  | compiled assets _ => assets
  | _ => []

def errors : ChildOutcome → List String
  | compiled _ errors => errors
  | crashed reason => [reason]
  | panicked reason => ["child compiler panicked: " ++ reason.getD "unknown panic"]

def report (target : BuildTarget) (o : ChildOutcome) : ChildReport where
  target
  success := o.errors.isEmpty
  assets := o.assets
  errors := o.errors

end ChildOutcome

/-- What other threads do. -/
inductive Happening where
  /-- The running child in this place ends. -/
  | ended (place : Nat) (outcome : ChildOutcome)
  | cancelled
deriving DecidableEq, Repr

structure Coordinator where
  registry : ChildRegistry := {}
  /-- How long a wait takes at most. -/
  timeoutMs : Nat := 300000
  /-- The place of each child that was started, and the build on which its failure is recorded. -/
  starts : List (Nat × String) := []
  /-- Recorded errors by the name of the build. -/
  errors : List (String × String) := []

/-- What happens while the coordinator waits for the child in a place. -/
abbrev Progress := Coordinator → Nat → List Happening

namespace Coordinator

def record (c : Coordinator) (build : String) (e : ChildError) : Coordinator :=
  { c with errors := c.errors ++ [(build, e.message)] }

def errorsOf (c : Coordinator) (build : String) : List String :=
  (c.errors.filter fun e => e.1 == build).map Prod.snd

/-- The build that started the child in a place. -/
def starter? (c : Coordinator) (place : Nat) : Option String := c.starts.lookup place

/-- How often a child was started for a target. -/
def startCount (c : Coordinator) (target : BuildTarget) : Nat :=
  c.starts.countP fun (place, _) => (c.registry.get? place).any fun x => x.spec.target == target

/-- The places of running children, with their specifications. -/
def running (c : Coordinator) : List (Nat × ChildSpec) :=
  (c.registry.contexts.zipIdx.filter fun (x, _) => x.state == .running).map
    fun (x, place) => (place, x.spec)

/-! ## Children -/

/-- Starts a child, unless it has been started or all is cancelled. -/
def start (c : Coordinator) (build : String) (place : Nat) : Coordinator :=
  if c.registry.cancelled then c
  else
    match c.registry.tryStart place with
    | (true, r) => { c with registry := r, starts := c.starts ++ [(place, build)] }
    | (false, _) => c

/-- A running child ends. Its failure is recorded before it counts as completed. -/
def endChild (c : Coordinator) (place : Nat) (outcome : ChildOutcome) : Coordinator :=
  match c.registry.get? place with
  | none => c
  | some x =>
    if x.state = .running then
      let report := outcome.report x.spec.target
      let c :=
        if report.success then c
        else c.record ((c.starter? place).getD "") (.failed report.target report.errors)
      { c with registry := c.registry.complete place report }
    else c

/-- Stops waiting; children that are running are left alone. -/
def cancel (c : Coordinator) : Coordinator := { c with registry := c.registry.cancel }

def happen (c : Coordinator) : Happening → Coordinator
  | .ended place outcome => c.endChild place outcome
  | .cancelled => c.cancel

/-- Waits for a child. A wait that comes to nothing is recorded. -/
def wait (c : Coordinator) (build : String) (place : Nat) (progress : Progress) :
    Option ChildReport × Coordinator :=
  let c := (progress c place).foldl happen c
  match c.registry.get? place with
  | none => (none, c)
  | some x =>
    match c.registry.endWait x c.timeoutMs with
    | .ok report => (some report, c)
    | .error e => (none, c.record build e)

/-! ## Calls -/

/-- The targets that a new child has to wait for. -/
def awaitsOf (c : Coordinator) (parent : ParentBuild) (target : BuildTarget) : List BuildTarget :=
  if !parent.isDevelopment && !target.isServer && c.registry.contains .server then [.server] else []

/-- Registers the child of a parent build that is starting. -/
def register (c : Coordinator) (parent : ParentBuild) (spec : ChildSpec) : Nat × Coordinator :=
  let (place, r) := c.registry.insert { spec, awaits := c.awaitsOf parent spec.target }
  let c := { c with registry := r }
  (place,
    if parent.isDevelopment || !spec.target.isServer then c.start parent.name place else c)

/-- The targets to wait for when a parent finalizes its child: those the child awaits, and in
production also a server that was registered later. -/
def upstreams (c : Coordinator) (parent : ParentBuild) (child : ChildContext)
    (target : BuildTarget) :
    List BuildTarget :=
  child.awaits ++ (c.awaitsOf parent target).filter fun t => !child.awaits.contains t

/-- Starts the current child of a target and waits for it. -/
def await (build : String) (progress : Progress) (c : Coordinator) (target : BuildTarget) :
    Coordinator :=
  match c.registry.current.get? target with
  | none => c
  | some place => ((c.start build place).wait build place progress).2

/-- A parent finalizes: it waits for all children that its own must not get ahead of. -/
def finalize (c : Coordinator) (parent : ParentBuild) (target : BuildTarget) (progress : Progress) :
    Coordinator :=
  match c.registry.currentContext? target with
  | none => c
  | some child => (c.upstreams parent child target).foldl (await parent.name progress) c

/-- Waits for some children and collects their reports. -/
def collect (build : String) (progress : Progress) :
    List Nat → Coordinator → List ChildReport × Coordinator
  | [], c => ([], c)
  | place :: places, c =>
    let (report, c) := c.wait build place progress
    let (reports, c) := collect build progress places c
    (report.toList ++ reports, c)

/-- Starts every child that nobody has started and waits for all, in the order of their targets. -/
def finish (c : Coordinator) (build : String) (progress : Progress) :
    List ChildReport × Coordinator :=
  let places := c.registry.current.values
  collect build progress places (places.foldl (fun c place => c.start build place) c)

/-- Every running child ends, as its compiler says. -/
def atOnce (compile : ChildSpec → ChildOutcome) : Progress := fun c _ =>
  c.running.map fun (place, spec) => .ended place (compile spec)

end Coordinator

end ModuleSharing
