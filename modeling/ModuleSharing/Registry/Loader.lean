/-!
# Loader functions

A consuming bundle calls one of twelve functions.  The name says which checks apply:

| required version | strict | singleton | name |
|---|---|---|---|
| absent  | -   | no  | `load` |
| absent  | -   | yes | `loadSingleton` |
| present | no  | no  | `loadVersionCheck` |
| present | yes | no  | `loadStrictVersionCheck` |
| present | no  | yes | `loadSingletonVersionCheck` |
| present | yes | yes | `loadStrictSingletonVersionCheck` |

Each gets the ending `Fallback` when the consumer brings a local module along.
-/

namespace ModuleSharing

/-- How the required version is checked. -/
inductive VersionCheck where
  | unchecked
  | lenient
  | strict
deriving DecidableEq, Repr

structure Loader where
  check : VersionCheck
  singleton : Bool
  fallback : Bool
deriving DecidableEq, Repr

namespace Loader

/-- The loader for a request. Without a range there is nothing to be strict about. -/
def select (hasRange strict singleton hasFallback : Bool) : Loader where
  check := if hasRange then (if strict then .strict else .lenient) else .unchecked
  singleton := singleton
  fallback := hasFallback

def isVersioned (f : Loader) : Bool := f.check != .unchecked

def isStrict (f : Loader) : Bool := f.check == .strict

def name (f : Loader) : String :=
  "load" ++ (if f.isStrict then "Strict" else "") ++ (if f.singleton then "Singleton" else "") ++
    (if f.isVersioned then "VersionCheck" else "") ++ (if f.fallback then "Fallback" else "")

/-- Every loader, in the order of the table. -/
def all : List Loader :=
  [false, true].flatMap fun fallback =>
    [⟨.unchecked, false, fallback⟩, ⟨.unchecked, true, fallback⟩, ⟨.lenient, false, fallback⟩,
      ⟨.strict, false, fallback⟩, ⟨.lenient, true, fallback⟩, ⟨.strict, true, fallback⟩]

def ofName? (s : String) : Option Loader := all.find? fun f => f.name == s

end Loader

end ModuleSharing
