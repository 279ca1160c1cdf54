import ModuleSharing.Registry.Basic

/-!
# Histories

A history is a list of calls on a registry.  `Registry.perform` answers one call and
`Registry.run` a whole history.
-/

namespace ModuleSharing

/-- One call on a registry. -/
inductive Call (μ : Type) where
  | register (a : Address) (version : Version) (origin : String) (factory : Factory μ)
      (eager : Bool)
  | provide (a : Address) (version : Version) (factory : Factory μ) (eager : Bool)
  | activate (a : Address) (version : Version)
  | resolve (q : Request μ)
  | invoke (f : Loader) (a : Address) (range : Option VersionRange) (fallback : Option (Factory μ))
  | load (a : Address) (fallback : Option (Factory μ))
  | loadSingleton (a : Address) (fallback : Option (Factory μ))
  | loadVersionCheck (a : Address) (range : VersionRange) (fallback : Option (Factory μ))
  | loadStrictVersionCheck (a : Address) (range : VersionRange) (fallback : Option (Factory μ))
  | loadSingletonVersionCheck (a : Address) (range : VersionRange) (fallback : Option (Factory μ))
  | loadStrictSingletonVersionCheck (a : Address) (range : VersionRange)
      (fallback : Option (Factory μ))

/-- What a call answers. -/
inductive Reply (μ : Type) where
  | registered
  | activated (result : Except LoadError Unit)
  | loaded (result : Except LoadError (Loaded μ))

namespace Call

variable {μ : Type}

/-- The address a call is about. -/
def address : Call μ → Address
  | register a _ _ _ _ => a
  | provide a _ _ _ => a
  | activate a _ => a
  | resolve q => q.address
  | invoke _ a _ _ => a
  | load a _ => a
  | loadSingleton a _ => a
  | loadVersionCheck a _ _ => a
  | loadStrictVersionCheck a _ _ => a
  | loadSingletonVersionCheck a _ _ => a
  | loadStrictSingletonVersionCheck a _ _ => a

end Call

namespace Registry

variable {μ : Type}

private def answer (result : Except LoadError (Loaded μ) × Registry μ) : Reply μ × Registry μ :=
  (.loaded result.1, result.2)

/-- Answers one call. -/
def perform (r : Registry μ) : Call μ → Reply μ × Registry μ
  | .register a version origin factory eager =>
    (.registered, r.register a version origin factory eager)
  | .provide a version factory eager => (.registered, r.provide a version factory eager)
  | .activate a version => (.activated (r.activate a version).1, (r.activate a version).2)
  | .resolve q => answer (r.resolve q)
  | .invoke f a range fallback => answer (r.invoke f a range fallback)
  | .load a fallback => answer (r.load a fallback)
  | .loadSingleton a fallback => answer (r.loadSingleton a fallback)
  | .loadVersionCheck a range fallback => answer (r.loadVersionCheck a range fallback)
  | .loadStrictVersionCheck a range fallback => answer (r.loadStrictVersionCheck a range fallback)
  | .loadSingletonVersionCheck a range fallback =>
    answer (r.loadSingletonVersionCheck a range fallback)
  | .loadStrictSingletonVersionCheck a range fallback =>
    answer (r.loadStrictSingletonVersionCheck a range fallback)

/-- Answers a history call by call, with factories that yield the same whenever they are called. -/
def run (r : Registry μ) : List (Call μ) → List (Reply μ) × Registry μ
  | [] => ([], r)
  | call :: calls =>
    let (reply, r) := r.perform call
    let (replies, r) := run r calls
    (reply :: replies, r)

end Registry

end ModuleSharing
