import ModuleSharing.Character.Set
import ModuleSharing.Text.Decimal

/-!
# Runs of code points

A table that gives every code point a short code is written as one text: the code of the first code
points and how many of them have it, then the next code, and so on.  A count of one is left out.
-/

namespace ModuleSharing.Character

/-- Neighbouring code points with the same code. -/
structure Run where
  code : String
  first : Nat
  last : Nat
deriving DecidableEq, Repr

namespace Run

/-- Reads the runs from `start` on; codes are `width` letters long. -/
def ofChars (width : Nat) : Nat → Nat → List Char → List Run
  | 0, _, _ => []
  | _, _, [] => []
  | fuel + 1, start, cs =>
    let rest := cs.drop width
    let digits := rest.takeWhile Text.isDigit
    let count := if digits.isEmpty then 1 else Text.value digits
    ⟨String.ofList (cs.take width), start, start + count - 1⟩ ::
      ofChars width fuel (start + count) (rest.dropWhile Text.isDigit)

/-- The runs of a table of all code points. -/
def ofLines (width : Nat) (lines : List String) : List Run :=
  let cs := lines.flatMap String.toList
  ofChars width cs.length 0 cs

/-- The code points with one of some codes. -/
def set (codes : List String) (runs : List Run) : CharSet :=
  .ofRanges ((runs.filter fun r => codes.contains r.code).map fun r => (r.first, r.last))

end Run

end ModuleSharing.Character
