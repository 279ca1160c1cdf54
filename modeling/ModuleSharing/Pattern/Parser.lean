import ModuleSharing.Pattern.Automaton
import ModuleSharing.Pattern.Class

/-!
# Reading regular expressions

`Pattern.parse?` reads an expression: literals, classes, groups, flags, choices and repetitions, but
no look-around and no back-references.  An expression may be neither nested too deep nor too large.
-/

namespace ModuleSharing.Pattern

open Character

open Reader

/-- An expression, and how deep its written form is nested. -/
structure Part where
  expr : Expr
  depth : Nat := 0

/-- The items of a branch, last one first; flags alone are an item that cannot be repeated. -/
abbrev Branch := List (Option Part)

/-- The items of a branch one after another; two or more of them are one level deeper. -/
def Branch.part (b : Branch) : Part :=
  let parts := b.reverse.filterMap id
  let depth := parts.foldl (fun n p => max n p.depth) 0
  ⟨.sequence (parts.map Part.expr), if 2 ≤ b.length then depth + 1 else depth⟩

/-- The choice between some branches, last one first; two or more of them are one level deeper. -/
def Part.ofBranches : List Part → Part
  | [p] => p
  | ps =>
    ⟨.alternatives (ps.reverse.map Part.expr), ps.foldl (fun n p => max n p.depth) 0 + 1⟩

/-! ## Characters and edges -/

def ofAtom (f : Flags) : Atom → Expr
  | .literal n => .char (f.fold (.single n))
  | .class s => .char s
  | .edge e => .edge e

/-- A character that stands for itself, a dot, a line edge or an escape. -/
def readAtom (f : Flags) : Reader Expr := do
  match ← next with
  | '\\' => return ofAtom f (← readEscape f)
  | '.' =>
    if !f.unicode then failure
    else if f.dotAll then return .char .all
    else if f.crlf then return .char (CharSet.ofText "A D").compl
    else return .char (CharSet.ofText "A").compl
  | '^' => return .edge (if f.multiLine then .lineStart f.crlf else .textStart)
  | '$' => return .edge (if f.multiLine then .lineEnd f.crlf else .textEnd)
  | c => return ofAtom f (.literal c.toNat)

/-! ## Groups -/

/-- Names of groups start with a letter or an underscore, and go on with letters, numbers,
underscores, dots and square brackets. -/
def isNameChar (first : Bool) (c : Char) : Bool :=
  c == '_' || alphabetic.contains c.toNat ||
    (!first && (c == '.' || c == '[' || c == ']' ||
      (categories ["Nd", "Nl", "No"]).contains c.toNat))

/-- The name of a group up to the closing angle bracket. No two groups share a name. -/
def readName : Reader Unit := do
  let name ← takeWhile (· != '>')
  expect '>'
  match name with
  | [] => failure
  | c :: cs =>
    if !isNameChar true c || !cs.all (isNameChar false) then failure
    if (← get).names.contains name then failure
    modify fun s => { s with names := name :: s.names }

/-- The number of a group that starts here. -/
def nextGroup : Reader Nat := do
  let number := (← get).groups + 1
  modify fun s => { s with groups := number }
  return number

def Flags.set (f : Flags) (on : Bool) (c : Char) : Option Flags :=
  match c with
  | 'i' => some { f with ignoreCase := on }
  | 'm' => some { f with multiLine := on }
  | 's' => some { f with dotAll := on }
  | 'x' => some { f with spaced := on }
  | 'R' => some { f with crlf := on }
  | 'u' => some { f with unicode := on }
  | 'U' => some { f with fewFirst := on }
  | _ => none

/-- Flags, which may be turned off after one hyphen; `seen` are those before. -/
def setFlags (f : Flags) (on : Bool) (seen : List Char) : List Char → Option Flags
  | [] => some f
  | '-' :: cs => if on && !cs.isEmpty then setFlags f false seen cs else none
  | c :: cs => do
    if seen.contains c then none
    setFlags (← f.set on c) on (c :: seen) cs

/-! ## Repetitions -/

/-- The bounds of a repetition after its opening brace. -/
def readBounds (f : Flags) : Reader (Nat × Option Nat) := do
  skipSpace f
  let some least ← count f | failure
  let most ←
    if ← accept [','] then do
      skipSpace f
      if (← peek) == some '}' then pure none
      else do
        let some most ← count f | failure
        pure (some most)
    else pure (some least)
  expect '}'
  skipSpace f
  if most.any (· < least) then failure else return (least, most)

/-- The bounds of the repetition that a character stands for. -/
def repetition (f : Flags) (c : Char) : Option (Reader (Nat × Option Nat)) :=
  match c with
  | '*' => some (pure (0, none))
  | '+' => some (pure (1, none))
  | '?' => some (pure (0, some 1))
  | '{' => some (readBounds f)
  | _ => none

/-! ## Branches -/

/-- What a parenthesis opens: flags for what follows, or a group with flags of its own and, in most
cases, a number. -/
inductive Opening where
  | flags (f : Flags)
  | group (number : Option Nat) (f : Flags)

/-- What follows an opening parenthesis. -/
def readOpening (f : Flags) : Reader Opening := do
  skipSpace f
  for look in [['?', '='], ['?', '!'], ['?', '<', '='], ['?', '<', '!']] do
    if look.isPrefixOf (← get).rest then failure
  if (← accept ['?', 'P', '<']) || (← accept ['?', '<']) then
    let number ← nextGroup
    readName
    return .group (some number) f
  else if ← accept ['?'] then
    let letters ← takeWhile fun c => c != ')' && c != ':'
    let some flags := setFlags f true [] letters | failure
    if ← accept [':'] then return .group none flags
    else
      expect ')'
      if letters.isEmpty then failure else return .flags flags
  else return .group (some (← nextGroup)) f

/-- Reads branches up to the end of the group or of the text, within `depth` groups. `done` are the
branches before, and `branch` is the one that is read. -/
def readBranches (fuel depth : Nat) (f : Flags) (done : List Part) (branch : Branch) :
    Reader Part := do
  match fuel with
  | 0 => failure
  | fuel + 1 =>
    skipSpace f
    match ← peek with
    | none => return .ofBranches (branch.part :: done)
    | some ')' => return .ofBranches (branch.part :: done)
    | some '|' =>
      let _ ← next
      readBranches fuel depth f (branch.part :: done) []
    | some '[' =>
      let _ ← next
      let part ← readClass (2 * (← get).rest.length + 2) 0 f
      readBranches fuel depth f done (some ⟨.char part.set, part.depth⟩ :: branch)
    | some '(' =>
      let _ ← next
      match ← readOpening f with
      | .flags flags => readBranches fuel depth flags done (none :: branch)
      | .group number inner => do
        if depth ≥ maxNesting then failure
        let part ← readBranches fuel (depth + 1) inner [] []
        expect ')'
        let e := number.elim part.expr fun n => .group n part.expr
        readBranches fuel depth f done (some ⟨e, part.depth + 1⟩ :: branch)
    | some c =>
      match repetition f c with
      | some bounds =>
        match branch with
        | some part :: before => do
          let _ ← next
          let (least, most) ← bounds
          let fewFirst := (← accept ['?']) != f.fewFirst
          let e := part.expr.times least most fewFirst
          readBranches fuel depth f done (some ⟨e, part.depth + 1⟩ :: before)
        | _ => failure
      | none =>
        let e ← readAtom f
        readBranches fuel depth f done (some ⟨e, 0⟩ :: branch)

/-- Reads a whole expression, `none` for one that is malformed, nested too deep or too large. -/
def parse? (s : String) : Option Expr := do
  let cs := s.toList
  let (part, state) ← (readBranches (2 * cs.length + 2) 0 {} [] []).run { rest := cs }
  if !state.rest.isEmpty || part.depth > maxNesting || !part.expr.fits then none
  else some part.expr

end ModuleSharing.Pattern
