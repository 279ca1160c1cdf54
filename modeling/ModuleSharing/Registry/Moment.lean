import ModuleSharing.Registry.History

/-!
# Factories that answer anew

The factory of an entry belongs to the bundle that registered it, and a fallback to the consumer
that brings it along.  Either is called each time its module is asked for, and one that failed may
succeed the next time or the other way round.  A registry holds what its factories yield now;
`Moment` says what they yield at the next call, and `Registry.runAnew` answers a history in which
they may change their minds before every call.
-/

namespace ModuleSharing

variable {μ : Type}

/-- What the factory of each registered version yields at one moment. -/
abbrev Moment (μ : Type) := Address → Version → Factory μ

def Entry.yielding (e : Entry μ) (factory : Factory μ) : Entry μ := { e with factory }

def Shelf.yielding (s : Shelf μ) (yields : Version → Factory μ) : Shelf μ :=
  { s with entries := s.entries.map fun e => e.yielding (yields e.version) }

/-- The request when its fallback, if it brings one, yields `factory`. -/
def Request.yielding (q : Request μ) (factory : Factory μ) : Request μ :=
  { q with fallback := q.fallback.map fun _ => factory }

namespace Registry

/-- The registry at a moment. -/
def yielding (r : Registry μ) (m : Moment μ) : Registry μ :=
  { r with shelves := r.shelves.mapValues fun a s => s.yielding (m a) }

/-- Answers a history call by call, each at a moment of its own. -/
def runAnew (r : Registry μ) : List (Moment μ × Call μ) → List (Reply μ) × Registry μ
  | [] => ([], r)
  | (m, call) :: steps =>
    let (reply, r) := (r.yielding m).perform call
    let (replies, r) := runAnew r steps
    (reply :: replies, r)

end Registry

end ModuleSharing
