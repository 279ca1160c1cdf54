import ModuleSharing.Json.Basic

/-!
# JSON texts as far as they could be read

A draft holds what was read of a text and its faults in the places where they were met, so that who
looks through a draft in order sees first what comes first in the text.  Some faults do not matter
to who only passes over a value, such as a number that is too large; the reading goes on after
them.  An object in a draft keeps repeated keys.
-/

namespace ModuleSharing.Json

/-- What stops the reading of a text. -/
inductive Fault where
  /-- A character that cannot stand there. -/
  | malformed
  /-- The text ends too early. -/
  | cutOff
deriving DecidableEq, Repr

/-- What is wrong in one place of a text. -/
structure Flaw where
  fault : Fault
  /-- What stops who only passes over the text, if anything does. -/
  passing : Option Fault
deriving DecidableEq, Repr

/-- What is wrong for everyone. -/
def Fault.flaw (f : Fault) : Flaw := ⟨f, some f⟩

inductive Draft where
  | broken (flaw : Flaw)
  | null
  | bool (b : Bool)
  | number (n : Number)
  | string (s : String)
  /-- Items, and what is wrong after them. -/
  | array (items : List Draft) (flaw : Option Flaw)
  | object (members : List (String × Draft)) (flaw : Option Flaw)
deriving Inhabited

namespace Draft

mutual

/-- The draft of a value, which has no faults. -/
def ofJson : Json → Draft
  | .null => null
  | .bool b => bool b
  | .number n => number n
  | .string s => string s
  | .array items => array (ofItems items) none
  | .object members => object (ofMembers members) none
termination_by structural j => j

def ofItems : List Json → List Draft
  | [] => []
  | x :: xs => ofJson x :: ofItems xs
termination_by structural j => j

def ofMembers : List (String × Json) → List (String × Draft)
  | [] => []
  | (k, x) :: xs => (k, ofJson x) :: ofMembers xs
termination_by structural j => j

end

/-- A number as a value; one that is not finite has none and becomes `null`. -/
def valueOf : Number → Json
  | .real bits => if (Float.ofBits bits).isFinite then .number (.real bits) else .null
  | n => .number n

/-- The value after a fault that may be there. -/
def settled {α : Type} (fault : Option Fault) (a : α) : Except Fault α :=
  match fault with
  | none => .ok a
  | some f => .error f

mutual

/-- Passes over a draft, up to the first fault that matters then. -/
def pass : Draft → Except Fault Unit
  | broken flaw => settled flaw.passing ()
  | array items flaw => do
    passItems items
    settled (flaw.bind Flaw.passing) ()
  | object members flaw => do
    passMembers members
    settled (flaw.bind Flaw.passing) ()
  | _ => .ok ()
termination_by structural d => d

def passItems : List Draft → Except Fault Unit
  | [] => .ok ()
  | d :: ds => do
    pass d
    passItems ds
termination_by structural d => d

def passMembers : List (String × Draft) → Except Fault Unit
  | [] => .ok ()
  | (_, d) :: ds => do
    pass d
    passMembers ds
termination_by structural d => d

end

mutual

/-- The value of a draft, or its first fault. Of members with one key the last counts, in the place
of the first. -/
def toJson : Draft → Except Fault Json
  | broken flaw => .error flaw.fault
  | null => .ok .null
  | bool b => .ok (.bool b)
  | number n => .ok (valueOf n)
  | string s => .ok (.string s)
  | array items flaw => do settled (flaw.map Flaw.fault) (.array (← toItems items))
  | object members flaw => do settled (flaw.map Flaw.fault) (.object (← toMembers [] members))
termination_by structural d => d

def toItems : List Draft → Except Fault (List Json)
  | [] => .ok []
  | d :: ds => do
    let x ← toJson d
    .ok (x :: (← toItems ds))
termination_by structural d => d

def toMembers (known : List (String × Json)) :
    List (String × Draft) → Except Fault (List (String × Json))
  | [] => .ok known
  | (k, d) :: ds => do toMembers (setMember k (← toJson d) known) ds
termination_by structural d => d

end

end Draft

/-- A whole text: its first value, and whether anything but blanks follows. -/
structure Document where
  root : Draft
  trailing : Bool

end ModuleSharing.Json
