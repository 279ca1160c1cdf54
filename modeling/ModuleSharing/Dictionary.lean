/-!
# Dictionaries in key order

A dictionary is a list of pairs in ascending order of their keys.  Two dictionaries with the same
entries are equal, so a result can be stated as an equation.
-/

namespace ModuleSharing

/-- Pairs in ascending order of their keys, each key once. -/
structure Dictionary (κ : Type) (β : Type) where
  toList : List (κ × β)
deriving DecidableEq, Repr

namespace Dictionary

variable {κ β γ : Type} [Ord κ]

def empty : Dictionary κ β := ⟨[]⟩

instance : Inhabited (Dictionary κ β) := ⟨empty⟩

/-- The value of a key in a list of pairs. -/
def lookup (k : κ) : List (κ × β) → Option β
  | [] => none
  | (k', b) :: rest => if compare k k' = .eq then some b else lookup k rest

def get? (d : Dictionary κ β) (k : κ) : Option β := lookup k d.toList

def contains (d : Dictionary κ β) (k : κ) : Bool := (d.get? k).isSome

/-- Puts a pair where its key belongs, in place of the pair that has the same key. -/
def place (k : κ) (b : β) : List (κ × β) → List (κ × β)
  | [] => [(k, b)]
  | (k', b') :: rest =>
    match compare k k' with
    | .lt => (k, b) :: (k', b') :: rest
    | .eq => (k, b) :: rest
    | .gt => (k', b') :: place k b rest

def insert (d : Dictionary κ β) (k : κ) (b : β) : Dictionary κ β := ⟨place k b d.toList⟩

/-- The last of several pairs with one key counts. -/
def ofList (pairs : List (κ × β)) : Dictionary κ β :=
  pairs.foldl (fun d p => d.insert p.1 p.2) empty

/-- Replaces the value of each key. -/
def mapValues (f : κ → β → γ) (d : Dictionary κ β) : Dictionary κ γ :=
  ⟨d.toList.map fun (k, b) => (k, f k b)⟩

def keys (d : Dictionary κ β) : List κ := d.toList.map Prod.fst

def values (d : Dictionary κ β) : List β := d.toList.map Prod.snd

end Dictionary

end ModuleSharing
