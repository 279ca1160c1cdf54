import ModuleSharing.Character.Derived

/-!
# Regular expressions

Expressions over sets of characters, and the search for one anywhere in a text.  A search only says
whether there is a match, so matching is a function on sets of places: from the places where a match
may start to those where it may end.
-/

namespace ModuleSharing.Pattern

open Character

/-- What is asked of a place between two characters. -/
inductive Edge where
  | textStart
  | textEnd
  | lineStart (crlf : Bool)
  | lineEnd (crlf : Bool)
  /-- Exactly one side is part of a word. -/
  | wordEdge (ascii : Bool)
  | noWordEdge (ascii : Bool)
  | wordStart (ascii : Bool)
  | wordEnd (ascii : Bool)
  /-- The left side is not part of a word. -/
  | wordStartHalf (ascii : Bool)
  | wordEndHalf (ascii : Bool)
deriving DecidableEq, Repr

inductive Expr where
  | empty
  | char (s : CharSet)
  | edge (e : Edge)
  /-- A numbered group matches what the expression in it matches. -/
  | group (number : Nat) (e : Expr)
  | seq (a b : Expr)
  | alt (a b : Expr)
  /-- At least `least` times, and at most `most` times if that is given. Whether fewer times are
  tried first makes no difference to whether there is a match. -/
  | repeat (e : Expr) (least : Nat) (most : Option Nat) (fewFirst : Bool)
deriving DecidableEq, Inhabited

/-! ## Matching -/

def isWord (ascii : Bool) (c : Char) : Bool :=
  if ascii then c.isAlphanum || c == '_' else wordCharacter.contains c.toNat

namespace Edge

/-- Whether the place between `before` and `after` is such an edge. -/
def holds (e : Edge) (before after : Option Char) : Bool :=
  let left (ascii : Bool) := before.any (isWord ascii)
  let right (ascii : Bool) := after.any (isWord ascii)
  match e with
  | textStart => before.isNone
  | textEnd => after.isNone
  | lineStart false => before.isNone || before == some '\n'
  | lineStart true =>
    before.isNone || before == some '\n' || (before == some '\r' && after != some '\n')
  | lineEnd false => after.isNone || after == some '\n'
  | lineEnd true =>
    after.isNone || after == some '\r' || (after == some '\n' && before != some '\r')
  | wordEdge ascii => left ascii != right ascii
  | noWordEdge ascii => left ascii == right ascii
  | wordStart ascii => !left ascii && right ascii
  | wordEnd ascii => left ascii && !right ascii
  | wordStartHalf ascii => !left ascii
  | wordEndHalf ascii => !right ascii

end Edge

/-- Places in a text, each once. -/
abbrev Places := List Nat

def Places.add (p q : Places) : Places := p ++ q.filter fun i => !p.contains i

/-- The places `seen`, and those that at most `fuel` steps lead to from the newest of them. -/
def reach (step : Places → Places) : Nat → Places → Places → Places
  | 0, seen, _ => seen
  | fuel + 1, seen, newest =>
    match (step newest).filter fun i => !seen.contains i with
    | [] => seen
    | i :: is => reach step fuel (seen ++ i :: is) (i :: is)

/-- The places that `n` steps lead to. -/
def iterate (step : Places → Places) : Nat → Places → Places
  | 0, p => p
  | n + 1, p =>
    let q := step p
    if q = p then p else iterate step n q

/-- The character before a place. -/
def charBefore (text : Array Char) (i : Nat) : Option Char := if i = 0 then none else text[i - 1]?

/-- The places where a match may end that starts at one of `p`. -/
def Expr.ends (text : Array Char) : Expr → Places → Places
  | .empty, p => p
  | .char s, p => (p.filter fun i => text[i]?.any fun c => s.contains c.toNat).map (· + 1)
  | .edge e, p => p.filter fun i => e.holds (charBefore text i) text[i]?
  | .group _ e, p => e.ends text p
  | .seq a b, p => b.ends text (a.ends text p)
  | .alt a b, p => (a.ends text p).add (b.ends text p)
  | .repeat e least most _, p =>
    let start := iterate (e.ends text) least p
    reach (e.ends text) (most.elim (text.size + 1) (· - least)) start start

/-- Whether the expression matches some part of the text. -/
def Expr.isIn (e : Expr) (s : String) : Bool :=
  let text := s.toList.toArray
  !(e.ends text (List.range (text.size + 1))).isEmpty

/-! ## Plain forms

An expression is built in a plain form: sequences and choices lean to the right, a choice between
characters is a set of characters, and what takes no characters is repeated at most once. -/

namespace Expr

/-- Whether every match is empty. -/
def isWidthless : Expr → Bool
  | empty => true
  | edge _ => true
  | char _ => false
  | group _ e => e.isWidthless
  | seq a b => a.isWidthless && b.isWidthless
  | alt a b => a.isWidthless && b.isWidthless
  | .repeat e _ most _ => e.isWidthless && most.isSome

/-- The fewest characters of a match, unless some part of the expression has none. -/
def fewest : Expr → Option Nat
  | empty => some 0
  | edge _ => some 0
  | char s => if s.ranges.isEmpty then none else some 1
  | group _ e => e.fewest
  | seq a b => do return (← a.fewest) + (← b.fewest)
  | alt a b => do return min (← a.fewest) (← b.fewest)
  | .repeat e least _ _ => e.fewest.map (least * ·)

/-- An expression and another one after it. -/
def followedBy (e f : Expr) : Expr :=
  match e, f with
  | empty, f => f
  | seq a b, f => seq a (b.followedBy f)
  | e, empty => e
  | e, f => seq e f

def sequence (es : List Expr) : Expr := es.foldr followedBy empty

def parts : Expr → List Expr
  | empty => []
  | seq a b => a.parts ++ b.parts
  | e => [e]

def branches : Expr → List Expr
  | alt a b => a.branches ++ b.branches
  | e => [e]

def set? : Expr → Option CharSet
  | char s => some s
  | _ => none

/-- Whether the expression is one certain character. -/
def isLetter (e : Expr) : Bool := e.set?.any fun s => s.single?.isSome

/-- The choice between some expressions; it is a set if all are certain characters or none is, but
sets. -/
def choice (es : List Expr) : Expr :=
  let sets := es.filterMap set?
  if sets.length = es.length && (es.all isLetter || !es.any isLetter) then char (.unions sets)
  else chain es
where
  chain : List Expr → Expr
    | [] => char .none
    | [e] => e
    | e :: es => alt e (chain es)

/-- The parts of a sequence; certain characters that stand together are one part. -/
def pieces : List Expr → List (List Expr)
  | [] => []
  | e :: es =>
    match pieces es with
    | (f :: fs) :: ps =>
      if e.isLetter && f.isLetter then (e :: f :: fs) :: ps else [e] :: (f :: fs) :: ps
    | ps => [e] :: ps

/-- What two lists have in common at their start. -/
def sharedStart : List (List Expr) → List (List Expr) → List (List Expr)
  | p :: ps, q :: qs => if p = q then p :: sharedStart ps qs else []
  | _, _ => []

/-- The choice between some expressions, after the pieces that all of them start with. -/
def alternatives (es : List Expr) : Expr :=
  let es := es.flatMap branches
  let written := es.map fun e => pieces e.parts
  let shared :=
    match written with
    | first :: rest =>
      if written.all fun ps => 2 ≤ ps.length then rest.foldl sharedStart first else []
    | [] => []
  match es, shared with
  | [e], _ => e
  | _, [] => choice es
  | _, _ =>
    let rest := written.map fun ps => sequence (ps.drop shared.length).flatten
    (sequence shared.flatten).followedBy (choice (rest.flatMap branches))

/-- An expression as often as some bounds allow. -/
def times (e : Expr) (least : Nat) (most : Option Nat) (fewFirst : Bool) : Expr :=
  let (least, most) :=
    if e.isWidthless then (min least 1, some (min (most.getD 1) 1)) else (least, most)
  if most = some 0 then empty
  else if least = 1 ∧ most = some 1 then e
  else .repeat e least most fewFirst

end Expr

end ModuleSharing.Pattern
