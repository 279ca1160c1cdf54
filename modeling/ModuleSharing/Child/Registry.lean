import ModuleSharing.Child.Spec

/-!
# The registry of child builds

A child build is created, then running, then completed.  The registry keeps every child that was
ever registered at its place, and for each target the one registered last.
-/

namespace ModuleSharing

open Json

/-- The result of a child build. -/
structure ChildReport where
  target : BuildTarget
  success : Bool
  assets : List String := []
  errors : List String := []
  durationMs : Nat := 0
deriving DecidableEq, Repr

def ChildReport.toJson (r : ChildReport) : Json :=
  .object
    [("target", .string r.target.name), ("success", .bool r.success),
      ("assets", .ofStrings r.assets),
      ("errors", .ofStrings r.errors), ("duration_ms", .ofNat r.durationMs)]

inductive ChildState where
  | created
  | running
  | completed (report : ChildReport)
deriving DecidableEq, Repr

namespace ChildState

def name : ChildState → String
  | created => "created"
  | running => "running"
  | completed _ => "completed"

def report? : ChildState → Option ChildReport
  | completed report => some report
  | _ => none

end ChildState

/-- Why a wait or a child build came to nothing. -/
inductive ChildError where
  | failed (target : BuildTarget) (errors : List String)
  | timedOut (target : BuildTarget) (timeoutMs : Nat)
  | cancelled (target : BuildTarget)
deriving DecidableEq, Repr

namespace ChildError

def message : ChildError → String
  | failed target errors => target.name ++ " child build failed: " ++ "; ".intercalate errors
  | timedOut target timeoutMs =>
    target.name ++ " child build did not finish within " ++ toString (timeoutMs / 1000) ++ "s"
  | cancelled target => target.name ++ " child build was cancelled"

end ChildError

/-- One child build. -/
structure ChildContext where
  spec : ChildSpec
  /-- The targets that have to be complete before this one can be finalized. -/
  awaits : List BuildTarget := []
  state : ChildState := .created

structure ChildRegistry where
  contexts : List ChildContext := []
  /-- The place of the child registered last for each target. -/
  current : Dictionary BuildTarget Nat := .empty
  cancelled : Bool := false

namespace ChildRegistry

/-- Registers a child in place of the one with the same target. -/
def insert (r : ChildRegistry) (c : ChildContext) : Nat × ChildRegistry :=
  (r.contexts.length,
    { r with
      contexts := r.contexts ++ [c]
      current := r.current.insert c.spec.target r.contexts.length })

def get? (r : ChildRegistry) (place : Nat) : Option ChildContext := r.contexts[place]?

def state? (r : ChildRegistry) (place : Nat) : Option ChildState :=
  (r.get? place).map ChildContext.state

def contains (r : ChildRegistry) (target : BuildTarget) : Bool := r.current.contains target

/-- The child registered last for a target. -/
def currentContext? (r : ChildRegistry) (target : BuildTarget) : Option ChildContext :=
  (r.current.get? target).bind r.get?

/-- The children registered last, in the order of their targets. -/
def currentContexts (r : ChildRegistry) : List ChildContext := r.current.values.filterMap r.get?

def isCompleted (r : ChildRegistry) (target : BuildTarget) : Bool :=
  ((r.currentContext? target).bind fun c => c.state.report?).isSome

def setState (r : ChildRegistry) (place : Nat) (s : ChildState) : ChildRegistry :=
  { r with contexts := r.contexts.modify place fun c => { c with state := s } }

/-- Claims a child for running. Only the first claim succeeds. -/
def tryStart (r : ChildRegistry) (place : Nat) : Bool × ChildRegistry :=
  if r.state? place = some .created then (true, r.setState place .running) else (false, r)

def complete (r : ChildRegistry) (place : Nat) (report : ChildReport) : ChildRegistry :=
  r.setState place (.completed report)

def cancel (r : ChildRegistry) : ChildRegistry := { r with cancelled := true }

/-- What a wait of this length that ends now comes to. -/
def endWait (r : ChildRegistry) (c : ChildContext) (timeoutMs : Nat) :
    Except ChildError ChildReport :=
  match c.state with
  | .completed report => .ok report
  | _ =>
    .error (if r.cancelled then .cancelled c.spec.target else .timedOut c.spec.target timeoutMs)

end ChildRegistry

end ModuleSharing
