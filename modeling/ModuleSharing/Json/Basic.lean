/-!
# JSON values

Objects keep the order of their members and have each key once.  A number is a natural number or a
negative integer of 64 bits, or a double, which is kept as its bits.
-/

namespace ModuleSharing

namespace Json

inductive Number where
  | natural (n : Nat)
  /-- The number `-n`. -/
  | negative (n : Nat)
  | real (bits : UInt64)
deriving DecidableEq, Repr

end Json

inductive Json where
  | null
  | bool (b : Bool)
  | number (n : Json.Number)
  | string (s : String)
  | array (items : List Json)
  | object (members : List (String × Json))
deriving Repr, Inhabited

namespace Json

/-! ## Equality -/

mutual

protected def beq : Json → Json → Bool
  | null, null => true
  | bool a, bool b => a == b
  | number m, number n => m == n
  | string s, string t => s == t
  | array xs, array ys => beqItems xs ys
  | object xs, object ys => beqMembers xs ys
  | _, _ => false
termination_by structural j => j

def beqItems : List Json → List Json → Bool
  | [], [] => true
  | x :: xs, y :: ys => x.beq y && beqItems xs ys
  | _, _ => false
termination_by structural j => j

def beqMembers : List (String × Json) → List (String × Json) → Bool
  | [], [] => true
  | (k, x) :: xs, (l, y) :: ys => k == l && x.beq y && beqMembers xs ys
  | _, _ => false
termination_by structural j => j

end

instance : BEq Json := ⟨Json.beq⟩

/-! ## Members -/

/-- Puts a member last, or in place of the one with the same key. -/
def setMember (k : String) (v : Json) : List (String × Json) → List (String × Json)
  | [] => [(k, v)]
  | (k', v') :: rest => if k == k' then (k, v) :: rest else (k', v') :: setMember k v rest

/-- The value of a key in an object. -/
def get? (j : Json) (k : String) : Option Json :=
  match j with
  | object members => members.lookup k
  | _ => none

/-! ## Building values -/

def ofNat (n : Nat) : Json := number (.natural n)

def ofStrings (ss : List String) : Json := array (ss.map string)

/-- The value, or `null`. -/
def ofOption {α : Type} (f : α → Json) (o : Option α) : Json := o.elim null f

/-- A member that is left out when there is no value. -/
def optional {α : Type} (key : String) (f : α → Json) (o : Option α) : List (String × Json) :=
  o.elim [] fun a => [(key, f a)]

end Json

end ModuleSharing
