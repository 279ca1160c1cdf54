import ModuleSharing.Dictionary
import ModuleSharing.Registry.Failure
import ModuleSharing.Registry.Loader

/-!
# The registry of shared modules

A registry maps a share scope and a share key to the versions that bundles have registered, in
ascending precedence, and to the version that singletons have settled on.  `resolve` picks the
highest version that satisfies a request and otherwise the consumer's own fallback.  `μ` is the type
of loaded modules.
-/

namespace ModuleSharing

/-- Where a shared module is registered. Addresses are ordered by scope, then by key. -/
structure Address where
  scope : String
  key : String
deriving DecidableEq, Repr

instance : Ord Address := ⟨compareLex (compareOn Address.scope) (compareOn Address.key)⟩

/-- What the factory of a module yields when it is called.  A request calls one factory at most, and
that once.  A history of calls takes a factory to yield the same at every call (`Registry.run`),
unless it says what each factory yields at each moment (`Registry.runAnew`). -/
abbrev Factory (μ : Type) := Except LoadError μ

/-- One registered version of a shared module. -/
structure Entry (μ : Type) where
  version : Version
  /-- The bundle that registered it. -/
  origin : String
  eager : Bool
  /-- Whether the factory has been called with success. -/
  loaded : Bool
  factory : Factory μ

/-! ## Binary search -/

/-- Searches the places from `low` on and before `high`, where `probe` compares the element of a
place with the one that is sought: the place of an equal element, or else where it belongs. -/
def bisect (probe : Nat → Ordering) : Nat → Nat → Nat → Except Nat Nat
  | 0, low, _ => .error low
  | fuel + 1, low, high =>
    if low < high then
      let middle := (low + high) / 2
      match probe middle with
      | .eq => .ok middle
      | .lt => bisect probe fuel (middle + 1) high
      | .gt => bisect probe fuel low middle
    else .error low

/-! ## The versions of one key -/

/-- The versions registered for one key, in ascending precedence. -/
structure Shelf (μ : Type) where
  entries : List (Entry μ) := []
  activated : Option Version := none

namespace Shelf

variable {μ : Type}

/-- The place of the entry that equals `v` in precedence, or else where such an entry belongs. -/
def position (s : Shelf μ) (v : Version) : Except Nat Nat :=
  bisect (fun i => (s.entries[i]?.map fun e => e.version.precedence v).getD .gt)
    s.entries.length 0 s.entries.length

def get? (s : Shelf μ) (v : Version) : Option (Entry μ) :=
  match s.position v with
  | .ok i => s.entries[i]?
  | .error _ => none

/-- The entry of highest precedence that the range admits. -/
def highestMatching? (s : Shelf μ) (range : Option VersionRange) : Option (Entry μ) :=
  s.entries.reverse.find? fun e => range.all (·.admits e.version)

def versionTexts (s : Shelf μ) : List String := s.entries.map (·.version.text)

/-- Adds an entry. One of equal precedence is replaced unless it has been loaded. -/
def register (s : Shelf μ) (e : Entry μ) : Shelf μ :=
  match s.position e.version with
  | .ok i =>
    if (s.entries[i]?.map Entry.loaded).getD false then s
    else { s with entries := s.entries.set i e }
  | .error i => { s with entries := s.entries.insertIdx i e }

def markLoaded (s : Shelf μ) (i : Nat) : Shelf μ :=
  { s with entries := s.entries.modify i fun e => { e with loaded := true } }

end Shelf

/-! ## Requests and results -/

/-- A request to load a shared module. -/
structure Request (μ : Type) where
  address : Address
  range : Option VersionRange := none
  singleton : Bool := false
  strict : Bool := false
  fallback : Option (Factory μ) := none

namespace Request

variable {μ : Type}

/-- The required range as messages show it. -/
def required (q : Request μ) : String := q.range.elim "*" VersionRange.text

/-- Whether `v` is within the required range. -/
def accepts (q : Request μ) (v : Version) : Bool := q.range.all (·.admits v)

/-- The failure of a request that no registered version satisfies. -/
def unsatisfied (q : Request μ) (available : List String) : LoadError :=
  .noSatisfyingVersion q.address.scope q.address.key q.required available

end Request

/-- Where a loaded module came from. -/
inductive Source where
  | shared (version : Version) (origin : String)
  | fallback
deriving DecidableEq, Repr

/-- A loaded module. -/
structure Loaded (μ : Type) where
  source : Source
  module : μ

namespace Loaded

def isFallback {μ : Type} (l : Loaded μ) : Bool := l.source == .fallback

end Loaded

/-! ## The registry -/

structure Registry (μ : Type) where
  shelves : Dictionary Address (Shelf μ) := .empty
  /-- Messages about singletons that were loaded outside the required range. -/
  warnings : List String := []

namespace Registry

variable {μ : Type}

def empty : Registry μ := {}

/-- The versions registered for an address. -/
def shelf? (r : Registry μ) (a : Address) : Option (Shelf μ) := r.shelves.get? a

def setShelf (r : Registry μ) (a : Address) (s : Shelf μ) : Registry μ :=
  { r with shelves := r.shelves.insert a s }

def entries (r : Registry μ) (a : Address) : List (Entry μ) := (r.shelf? a).elim [] Shelf.entries

def entry? (r : Registry μ) (a : Address) (v : Version) : Option (Entry μ) :=
  (r.shelf? a).bind (·.get? v)

def activated? (r : Registry μ) (a : Address) : Option Version := (r.shelf? a).bind Shelf.activated

/-- The names of all scopes with a registered module, in ascending order. -/
def scopes (r : Registry μ) : List String := (r.shelves.keys.map Address.scope).eraseDups

/-- Registers a version. -/
def register (r : Registry μ) (a : Address) (version : Version) (origin : String)
    (factory : Factory μ) (eager : Bool) : Registry μ :=
  r.setShelf a (((r.shelf? a).getD {}).register ⟨version, origin, eager, false, factory⟩)

/-- Registers a version for a bundle without a name. -/
def provide (r : Registry μ) (a : Address) (version : Version) (factory : Factory μ)
    (eager : Bool) : Registry μ :=
  r.register a version "" factory eager

/-- Settles singletons of an address on a registered version. -/
def activate (r : Registry μ) (a : Address) (v : Version) : Except LoadError Unit × Registry μ :=
  match r.shelf? a with
  | none => (.error (.noSatisfyingVersion a.scope a.key v.text []), r)
  | some s =>
    if (s.get? v).isSome then (.ok (), r.setShelf a { s with activated := some v })
    else (.error (.noSatisfyingVersion a.scope a.key v.text s.versionTexts), r)

/-- Calls the factory of a registered version. -/
def loadEntry (r : Registry μ) (a : Address) (v : Version) :
    Except LoadError (Loaded μ) × Registry μ :=
  match r.shelf? a with
  | none => (.error (.noSatisfyingVersion a.scope a.key v.text []), r)
  | some s =>
    match s.position v with
    | .error _ => (.error (.noSatisfyingVersion a.scope a.key v.text s.versionTexts), r)
    | .ok i =>
      match s.entries[i]? with
      | none => (.error (.noSatisfyingVersion a.scope a.key v.text s.versionTexts), r)
      | some e =>
        match e.factory with
        | .error failure => (.error failure, r)
        | .ok module => (.ok ⟨.shared e.version e.origin, module⟩, r.setShelf a (s.markLoaded i))

/-- The consumer's own module, if it brought one. -/
def useFallback (q : Request μ) (available : List String) : Except LoadError (Loaded μ) :=
  match q.fallback with
  | none => .error (q.unsatisfied available)
  | some factory => factory.map fun module => ⟨.fallback, module⟩

/-- The failure of a singleton request whose range leaves the activated version out. -/
def conflict (q : Request μ) (active : Version) : LoadError :=
  .versionConflict q.address.scope q.address.key q.required active.text

/-- Answers a singleton request once a version is activated. -/
def resolveActive (r : Registry μ) (q : Request μ) (s : Shelf μ) (active : Version) :
    Except LoadError (Loaded μ) × Registry μ :=
  if q.accepts active then r.loadEntry q.address active
  else if q.strict then
    if q.fallback.isSome then (useFallback q s.versionTexts, r) else (.error (conflict q active), r)
  else
    { r with warnings := r.warnings ++ [(conflict q active).message] }.loadEntry q.address active

/-- Answers a request from the registered versions; a singleton settles on the one that is chosen.
-/
def resolveHighest (r : Registry μ) (q : Request μ) (s : Shelf μ) :
    Except LoadError (Loaded μ) × Registry μ :=
  match s.highestMatching? q.range with
  | none => (useFallback q s.versionTexts, r)
  | some chosen =>
    let r :=
      if q.singleton then r.setShelf q.address { s with activated := some chosen.version } else r
    r.loadEntry q.address chosen.version

/-- Answers a request. -/
def resolve (r : Registry μ) (q : Request μ) : Except LoadError (Loaded μ) × Registry μ :=
  match r.shelf? q.address with
  | none => (useFallback q [], r)
  | some s =>
    match s.activated with
    | some active => if q.singleton then r.resolveActive q s active else r.resolveHighest q s
    | none => r.resolveHighest q s

/-! ## The loader functions -/

/-- The request that a loader function makes of its arguments. -/
def loaderRequest (f : Loader) (a : Address) (range : Option VersionRange)
    (fallback : Option (Factory μ)) : Request μ where
  address := a
  range := if f.isVersioned then range else none
  singleton := f.singleton
  strict := f.isStrict
  fallback := if f.fallback then fallback else none

/-- Calls a loader function by name, the way a generated stub does. -/
def invoke (r : Registry μ) (f : Loader) (a : Address) (range : Option VersionRange)
    (fallback : Option (Factory μ)) : Except LoadError (Loaded μ) × Registry μ :=
  r.resolve (loaderRequest f a range fallback)

def load (r : Registry μ) (a : Address) (fallback : Option (Factory μ)) :
    Except LoadError (Loaded μ) × Registry μ :=
  r.resolve { address := a, fallback }

def loadSingleton (r : Registry μ) (a : Address) (fallback : Option (Factory μ)) :
    Except LoadError (Loaded μ) × Registry μ :=
  r.resolve { address := a, singleton := true, fallback }

def loadVersionCheck (r : Registry μ) (a : Address) (range : VersionRange)
    (fallback : Option (Factory μ)) : Except LoadError (Loaded μ) × Registry μ :=
  r.resolve { address := a, range := some range, fallback }

def loadStrictVersionCheck (r : Registry μ) (a : Address) (range : VersionRange)
    (fallback : Option (Factory μ)) : Except LoadError (Loaded μ) × Registry μ :=
  r.resolve { address := a, range := some range, strict := true, fallback }

def loadSingletonVersionCheck (r : Registry μ) (a : Address) (range : VersionRange)
    (fallback : Option (Factory μ)) : Except LoadError (Loaded μ) × Registry μ :=
  r.resolve { address := a, range := some range, singleton := true, fallback }

def loadStrictSingletonVersionCheck (r : Registry μ) (a : Address) (range : VersionRange)
    (fallback : Option (Factory μ)) : Except LoadError (Loaded μ) × Registry μ :=
  r.resolve { address := a, range := some range, singleton := true, strict := true, fallback }

end Registry

end ModuleSharing
