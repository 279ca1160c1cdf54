import ModuleSharing.Files.Tree
import ModuleSharing.Json.Decode

/-!
# Failures to use a file

What went wrong with a file, under the lines that say what was being done, outermost first.
-/

namespace ModuleSharing

inductive FileFault where
  | path (fault : PathFault)
  | json (error : Json.DecodeError)
  | toml
deriving DecidableEq, Repr

namespace FileFault

def message : FileFault → String
  | path fault => fault.message
  | json error => error.message
  | toml => "malformed configuration"

end FileFault

structure FileError where
  contexts : List String := []
  fault : FileFault
deriving DecidableEq, Repr

namespace FileError

/-- The outermost line, if there is one. -/
def context? (e : FileError) : Option String := e.contexts.head?

/-- Everything in one line. -/
def message (e : FileError) : String := ": ".intercalate (e.contexts ++ [e.fault.message])

/-- Puts a result under a line that says what was being done. -/
def under {α : Type} (context : String) (r : Except FileError α) : Except FileError α :=
  r.mapError fun e => { e with contexts := context :: e.contexts }

def ofPath {α : Type} (r : Except PathFault α) : Except FileError α :=
  r.mapError fun f => { fault := .path f }

def ofJson {α : Type} (r : Except Json.DecodeError α) : Except FileError α :=
  r.mapError fun e => { fault := .json e }

def ofToml {α : Type} (r : Option α) : Except FileError α := r.elim (.error { fault := .toml }) .ok

end FileError

end ModuleSharing
