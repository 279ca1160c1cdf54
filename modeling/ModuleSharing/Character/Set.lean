/-!
# Sets of characters

A set holds ranges of code points, from low to high.  Ranges that overlap or touch become one, so
every set has one form.  Surrogates are no characters: U+E000 comes after U+D7FF, but two ranges
that end and start there stay apart.
-/

namespace ModuleSharing.Character

structure CharSet where
  ranges : List (Nat × Nat)
deriving DecidableEq, Repr, Inhabited

namespace CharSet

def contains (s : CharSet) (n : Nat) : Bool :=
  s.ranges.any fun (low, high) => low ≤ n && n ≤ high

def none : CharSet := ⟨[]⟩

/-- The last code point. -/
def last : Nat := 0x10FFFF

def all : CharSet := ⟨[(0, last)]⟩

def single (n : Nat) : CharSet := ⟨[(n, n)]⟩

/-- The only character of a set. -/
def single? (s : CharSet) : Option Nat :=
  match s.ranges with
  | [(low, high)] => if low = high then some low else .none
  | _ => .none

/-- Whether the set has ASCII characters only. -/
def isAscii (s : CharSet) : Bool := s.ranges.all fun r => r.2 < 128

/-! ## Union -/

/-- The ranges from `low` to `high` and those that start later, as few as possible. -/
def join (low high : Nat) : List (Nat × Nat) → List (Nat × Nat)
  | [] => [(low, high)]
  | (a, b) :: rs =>
    if a ≤ high + 1 then join low (max high b) rs else (low, high) :: join a b rs

/-- The set of some ranges in any order. -/
def ofRanges (rs : List (Nat × Nat)) : CharSet :=
  match rs.mergeSort fun r s => r.1 ≤ s.1 with
  | [] => none
  | (low, high) :: rs => ⟨join low high rs⟩

def union (s t : CharSet) : CharSet := ofRanges (s.ranges ++ t.ranges)

def unions (sets : List CharSet) : CharSet := ofRanges (sets.flatMap ranges)

/-! ## Complement -/

/-- The character after a code point. -/
def next (n : Nat) : Nat := if n = 0xD7FF then 0xE000 else n + 1

/-- The character before a code point. -/
def previous (n : Nat) : Nat := if n = 0xE000 then 0xD7FF else n - 1

/-- The gaps after a range that ends with `high`. Between ranges that end and start at the
surrogates there is no gap; the two characters there count as one. -/
def gaps (high : Nat) : List (Nat × Nat) → List (Nat × Nat)
  | [] => if high < last then [(next high, last)] else []
  | (low, high') :: rs =>
    (min (next high) (previous low), max (next high) (previous low)) :: gaps high' rs

def compl (s : CharSet) : CharSet :=
  match s.ranges with
  | [] => all
  | (low, high) :: rs => ⟨(if 0 < low then [(0, previous low)] else []) ++ gaps high rs⟩

/-! ## Intersection and difference -/

def inter (s t : CharSet) : CharSet :=
  ⟨s.ranges.flatMap fun (a, b) => t.ranges.filterMap fun (c, d) =>
    if max a c ≤ min b d then some (max a c, min b d) else .none⟩

/-- What is left from `low` to `high` without some ranges. -/
def cutOut (low high : Nat) : List (Nat × Nat) → List (Nat × Nat)
  | [] => [(low, high)]
  | (a, b) :: rs =>
    if b < low then cutOut low high rs
    else if high < a then [(low, high)]
    else
      (if low < a then [(low, previous a)] else []) ++
        if b < high then cutOut (next b) high rs else []

def diff (s t : CharSet) : CharSet := ⟨s.ranges.flatMap fun (a, b) => cutOut a b t.ranges⟩

/-- The characters of exactly one of two sets. -/
def symmDiff (s t : CharSet) : CharSet := (s.union t).diff (s.inter t)

/-! ## Sets written as text -/

def hexValue (c : Char) : Nat :=
  if c ≤ '9' then c.toNat - 48 else if c ≤ 'F' then c.toNat - 55 else c.toNat - 87

/-- A number in hexadecimal digits. -/
def hexNumber (ds : List Char) : Nat := ds.foldl (fun n d => 16 * n + hexValue d) 0

/-- A range such as `41-5A`, or one code point. -/
def rangeOf (cs : List Char) : Nat × Nat :=
  let low := hexNumber (cs.takeWhile (· != '-'))
  match cs.dropWhile (· != '-') with
  | [] => (low, low)
  | _ :: high => (low, hexNumber high)

/-- The set of the ranges in a text, which are set apart by blanks. -/
def ofText (s : String) : CharSet :=
  ofRanges (((s.toList.splitOnP (· == ' ')).filter fun w => !w.isEmpty).map rangeOf)

def ofLines (lines : List String) : CharSet := unions (lines.map ofText)

end CharSet

end ModuleSharing.Character
