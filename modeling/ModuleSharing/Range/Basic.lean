import ModuleSharing.Version.Basic

/-!
# Version ranges

A range is a choice of comparator sets; a set admits a version that all its comparators admit.  Each
comparator stands for an interval of the precedence order (`Comparator.interval`).  A pre-release
also needs a comparator that names a pre-release of the same three numbers.

The numbers that can be read fit into 64 bits.  An interval may end one past a given number, and
past the largest one (`Text.maxWord`) there is none that fits: this case is left out, since the
numbers here are natural numbers.  Where no given number is the largest, every interval begins and
ends at versions that fit (`Comparator.valid_of_mem_limits`).
-/

namespace ModuleSharing

/-- A version whose last numbers may be left open. -/
structure Partial where
  major : Option Nat := none
  minor : Option Nat := none
  patch : Option Nat := none
  pre : Prerelease := []
deriving DecidableEq, Repr

namespace Partial

/-- Every number is left open. -/
def any : Partial := {}

def isFull (p : Partial) : Bool := p.patch.isSome

/-- The lowest version this can stand for. -/
def floor (p : Partial) : Version :=
  { major := p.major.getD 0, minor := p.minor.getD 0, patch := p.patch.getD 0, pre := p.pre }

/-- The first version past all that this stands for, unless it stands for one version only.  It does
not fit into 64 bits if the last given number is the largest one. -/
def ceiling? (p : Partial) : Option Version :=
  match p.major, p.minor, p.patch with
  | some major, none, _ => some { major := major + 1, minor := 0, patch := 0 }
  | some major, some minor, none => some { major, minor := minor + 1, patch := 0 }
  | _, _, _ => none

/-- A star, or the numbers that are given and the pre-release of a full version. -/
def chars (p : Partial) : List Char :=
  match p.major, p.minor, p.patch with
  | none, _, _ => ['*']
  | some major, none, _ => Text.numeral major
  | some major, some minor, none => Text.numeral major ++ '.' :: Text.numeral minor
  | some major, some minor, some patch =>
    Text.numeral major ++ '.' :: Text.numeral minor ++ '.' :: Text.numeral patch ++
      Version.introduced '-' p.pre.chars

end Partial

/-- What a comparator asks of a version. -/
inductive Operator where
  | exact
  | greater
  | greaterEq
  | less
  | lessEq
  | tilde
  | caret
deriving DecidableEq, Repr

namespace Operator

/-- The sign a comparator is written with. -/
def sign : Operator → List Char
  | exact => []
  | greater => ['>']
  | greaterEq => ['>', '=']
  | less => ['<']
  | lessEq => ['<', '=']
  | tilde => ['~']
  | caret => ['^']

end Operator

/-- One side of an interval of versions. -/
inductive Limit where
  | open
  | inclusive (v : Version)
  | exclusive (v : Version)
deriving DecidableEq, Repr

namespace Limit

def admitsAbove : Limit → Version → Bool
  | .open, _ => true
  | .inclusive bound, v => v.precedence bound != .lt
  | .exclusive bound, v => v.precedence bound == .gt

def admitsBelow : Limit → Version → Bool
  | .open, _ => true
  | .inclusive bound, v => v.precedence bound != .gt
  | .exclusive bound, v => v.precedence bound == .lt

end Limit

/-- The versions between two limits. -/
structure Interval where
  lower : Limit := .open
  upper : Limit := .open
deriving DecidableEq, Repr

namespace Interval

def contains (i : Interval) (v : Version) : Bool := i.lower.admitsAbove v && i.upper.admitsBelow v

/-- The interval below the lowest version of all. -/
def empty : Interval := { upper := .exclusive { major := 0, minor := 0, patch := 0 } }

/-- From `floor` on and before `next`. -/
def upTo (floor next : Version) : Interval :=
  { lower := .inclusive floor, upper := .exclusive next }

end Interval

structure Comparator where
  op : Operator
  version : Partial
deriving DecidableEq, Repr

namespace Comparator

/-- The comparator that asks for nothing. -/
def any : Comparator := ⟨.exact, .any⟩

/-- The first version past what `~` allows: the next minor, or the next major if no minor is given.
It does not fit into 64 bits if the number that goes up is the largest one. -/
def tildeNext (major : Nat) (p : Partial) : Version :=
  match p.minor with
  | some minor => { major, minor := minor + 1, patch := 0 }
  | none => { major := major + 1, minor := 0, patch := 0 }

/-- The first version past what `^` allows: the first given number that is not zero goes up by one,
or the last given one if all are zero.  It does not fit into 64 bits if that number is the
largest one. -/
def caretNext (major : Nat) (p : Partial) : Version :=
  let minor := p.minor.getD 0
  let patch := p.patch.getD 0
  if major > 0 || p.minor.isNone then { major := major + 1, minor := 0, patch := 0 }
  else if minor > 0 || p.patch.isNone then { major := 0, minor := minor + 1, patch := 0 }
  else { major := 0, minor := 0, patch := patch + 1 }

/-- The versions a comparator admits. `<*` and `>*` admit none, any other wildcard admits all. -/
def interval (c : Comparator) : Interval :=
  let floor := c.version.floor
  match c.version.major with
  | none =>
    match c.op with
    | .less | .greater => .empty
    | _ => {}
  | some major =>
    match c.op with
    | .exact =>
      match c.version.ceiling? with
      | some next => .upTo floor next
      | none => { lower := .inclusive floor, upper := .inclusive floor }
    | .greaterEq => { lower := .inclusive floor }
    | .greater =>
      match c.version.ceiling? with
      | some next => { lower := .inclusive next }
      | none => { lower := .exclusive floor }
    | .less => { upper := .exclusive floor }
    | .lessEq =>
      match c.version.ceiling? with
      | some next => { upper := .exclusive next }
      | none => { upper := .inclusive floor }
    | .tilde => .upTo floor (tildeNext major c.version)
    | .caret => .upTo floor (caretNext major c.version)

def admits (c : Comparator) (v : Version) : Bool := c.interval.contains v

/-- Whether this comparator lets pre-releases of `v`'s three numbers in. -/
def namesPrereleaseOf (c : Comparator) (v : Version) : Bool :=
  !c.version.pre.isEmpty && c.version.major == some v.major && c.version.minor == some v.minor &&
    c.version.patch == some v.patch

/-- The canonical spelling: an exact comparator with open numbers shows them as `x`. -/
def chars (c : Comparator) : List Char :=
  if c.op = .exact ∧ ¬ c.version.isFull then
    match c.version.major, c.version.minor with
    | none, _ => ['*']
    | some major, none => Text.numeral major ++ ['.', 'x']
    | some major, some minor => Text.numeral major ++ '.' :: Text.numeral minor ++ ['.', 'x']
  else c.op.sign ++ c.version.chars

end Comparator

/-- All comparators of a set have to agree. -/
abbrev ComparatorSet := List Comparator

namespace ComparatorSet

def admits (set : ComparatorSet) (v : Version) : Bool :=
  set.all (·.admits v) && (v.pre.isEmpty || set.any (·.namesPrereleaseOf v))

def chars (set : ComparatorSet) : List Char := [' '].intercalate (set.map Comparator.chars)

end ComparatorSet

/-- A choice of comparator sets. -/
structure VersionRange where
  sets : List ComparatorSet
deriving DecidableEq, Repr

namespace VersionRange

/-- Whether `v` satisfies the range. -/
def admits (r : VersionRange) (v : Version) : Bool :=
  r.sets.any fun set => ComparatorSet.admits set v

/-- The canonical spelling. -/
def chars (r : VersionRange) : List Char :=
  [' ', '|', '|', ' '].intercalate (r.sets.map ComparatorSet.chars)

def text (r : VersionRange) : String := String.ofList r.chars

end VersionRange

end ModuleSharing
