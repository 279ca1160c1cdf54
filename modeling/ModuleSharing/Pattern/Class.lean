import ModuleSharing.Pattern.Escape

/-!
# Classes in brackets

A class lists characters, ranges and other classes; `&&`, `--` and `~~` between such lists stand for
what they share, what only the first has, and what only one has.
-/

namespace ModuleSharing.Pattern

open Character

/-- How deep an expression may be nested. -/
def maxNesting : Nat := 250

/-- A set of characters, and how deep its written form is nested. -/
structure ClassPart where
  set : CharSet
  depth : Nat := 0

namespace ClassPart

/-- The items of a list together; two or more of them are one level deeper. -/
def ofItems (items : List ClassPart) : ClassPart :=
  match items with
  | [] => ⟨.none, 0⟩
  | [item] => item
  | items => ⟨.unions (items.map set), items.foldl (fun n i => max n i.depth) 0 + 1⟩

end ClassPart

/-- What stands on the left of an operator, and the operator. -/
abbrev LeftSide := Option (ClassPart × (CharSet → CharSet → CharSet))

/-- The part on the left of an operator, if there is one, together with the one on its right. -/
def LeftSide.with (left : LeftSide) (f : Flags) (right : ClassPart) : ClassPart :=
  match left with
  | none => right
  | some (part, op) =>
    ⟨op (f.fold part.set) (f.fold right.set), max part.depth right.depth + 1⟩

/-- The classes that are written `[:name:]`. -/
def asciiClasses : List (String × String) :=
  [("alnum", "30-39 41-5A 61-7A"), ("alpha", "41-5A 61-7A"), ("ascii", "0-7F"), ("blank", "9 20"),
    ("cntrl", "0-1F 7F"), ("digit", "30-39"), ("graph", "21-7E"), ("lower", "61-7A"),
    ("print", "20-7E"), ("punct", "21-2F 3A-40 5B-60 7B-7E"), ("space", "9-D 20"),
    ("upper", "41-5A"), ("word", "30-39 41-5A 5F 61-7A"), ("xdigit", "30-39 41-46 61-66")]

/-- A named class with the text after it, if one comes next, and whether its opposite is meant. -/
def asciiClass? (cs : List Char) : Option (CharSet × Bool × List Char) :=
  match cs with
  | '[' :: ':' :: cs =>
    let (negated, cs) :=
      match cs with
      | '^' :: cs => (true, cs)
      | cs => (false, cs)
    match cs.dropWhile (· != ':') with
    | ':' :: ']' :: rest =>
      (asciiClasses.lookup (String.ofList (cs.takeWhile (· != ':')))).map fun ranges =>
        (.ofText ranges, negated, rest)
    | _ => none
  | _ => none

open Reader

/-- A character or class inside brackets. -/
def readClassAtom (f : Flags) : Reader Atom := do
  let c ← next
  if c == '\\' then readEscape f else return .literal c.toNat

/-- The character that an atom stands for; without Unicode it has to be a byte. -/
def literalOf (f : Flags) : Atom → Reader Nat
  | .literal n => if f.unicode || n < 128 then return n else failure
  | _ => failure

def setOf (f : Flags) : Atom → Reader CharSet
  | .class s => return s
  | a => do return .single (← literalOf f a)

/-- One character, class or range inside brackets. -/
def readClassItem (f : Flags) : Reader ClassPart := do
  let first ← readClassAtom f
  skipToNext f
  let second ← peekSecond f
  if (← peek) != some '-' || second == some ']' || second == some '-' then
    return ⟨← setOf f first, 0⟩
  else
    let _ ← next
    skipToNext f
    let low ← literalOf f first
    let high ← literalOf f (← readClassAtom f)
    if low ≤ high then return ⟨⟨[(low, high)]⟩, 0⟩ else failure

/-- Hyphens at the start of a class stand for themselves. -/
def readHyphens (f : Flags) : Nat → Reader (List ClassPart)
  | 0 => return []
  | fuel + 1 => do
    if ← accept ['-'] then
      skipToNext f
      return ⟨.single 45, 0⟩ :: (← readHyphens f fuel)
    else return []

mutual

/-- The rest of a class after its opening bracket, within `depth` others. -/
def readClass (fuel depth : Nat) (f : Flags) : Reader ClassPart := do
  match fuel with
  | 0 => failure
  | fuel + 1 =>
    if depth ≥ maxNesting then failure
    skipToNext f
    let negated ← accept ['^']
    if negated then skipToNext f
    let hyphens ← readHyphens f (← get).rest.length
    let items ←
      if hyphens.isEmpty && (← accept [']']) then do
        skipToNext f
        pure [⟨.single 93, 0⟩]
      else pure hyphens
    let part ← readClassItems fuel depth f none items
    let set := f.fold part.set
    return ⟨← if negated then opposite f set else pure set, part.depth + 1⟩

/-- The items of a class up to its closing bracket, after a left side and the given items. -/
def readClassItems (fuel depth : Nat) (f : Flags) (left : LeftSide) (items : List ClassPart) :
    Reader ClassPart := do
  match fuel with
  | 0 => failure
  | fuel + 1 =>
    skipSpace f
    let part := left.with f (.ofItems items)
    if ← accept [']'] then return part
    else if ← accept ['&', '&'] then readClassItems fuel depth f (some (part, .inter)) []
    else if ← accept ['-', '-'] then readClassItems fuel depth f (some (part, .diff)) []
    else if ← accept ['~', '~'] then readClassItems fuel depth f (some (part, .symmDiff)) []
    else if (← peek) == some '[' then
      match asciiClass? (← get).rest with
      | some (named, negated, rest) => do
        modify fun s => { s with rest }
        let set := f.fold named
        let set ← if negated then opposite f set else pure set
        readClassItems fuel depth f left (⟨set, 0⟩ :: items)
      | none => do
        let _ ← next
        let inner ← readClass fuel (depth + 1) f
        readClassItems fuel depth f left (inner :: items)
    else
      let item ← readClassItem f
      readClassItems fuel depth f left (item :: items)

end

end ModuleSharing.Pattern
