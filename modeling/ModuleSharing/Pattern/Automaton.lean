import ModuleSharing.Pattern.Expression
import Std.Data.HashMap

/-!
# How large an expression is

An expression is searched for with two automata that read the bytes of a text, one forward and one
backward.  Only the room that they take matters here: expressions whose automata take more than ten
mebibytes are refused.
-/

namespace ModuleSharing.Pattern

open Character

/-! ## Characters as bytes -/

/-- A range for each byte of some characters. -/
abbrev ByteRanges := List (Nat × Nat)

def utf8 (n : Nat) : List Nat := (String.utf8EncodeChar (Char.ofNat n)).map UInt8.toNat

/-- The ranges of characters with the same number of bytes, without surrogates. -/
def zones : List (Nat × Nat) :=
  [(0, 0x7F), (0x80, 0x7FF), (0x800, 0xD7FF), (0xE000, 0xFFFF), (0x10000, 0x10FFFF)]

/-- Cuts a range so that each piece takes up whole blocks, for each of some sizes of blocks, or lies
within one. -/
def blocks (low high : Nat) : List Nat → List (Nat × Nat)
  | [] => [(low, high)]
  | size :: sizes =>
    if low / size = high / size then [(low, high)]
    else
      let first := (low + size - 1) / size * size
      let stop := (high + 1) / size * size
      (if low < first then [(low, first - 1)] else []) ++
        (if first < stop then blocks first (stop - 1) sizes else []) ++
        if stop ≤ high then [(stop, high)] else []

/-- The bytes of the characters of a range. -/
def byteRanges (low high : Nat) : List ByteRanges :=
  zones.flatMap fun (a, b) =>
    let (low, high) := (max low a, min high b)
    if high < low then []
    else if high < 128 then [[(low, high)]]
    else (blocks low high [64, 4096, 262144]).map fun (low, high) => (utf8 low).zip (utf8 high)

/-! ## Automata -/

/-- An automaton as far as it is built: how many states it has, and how many bytes their tables
take. -/
structure Automaton where
  states : Nat := 0
  tables : Nat := 0
deriving DecidableEq, Repr

namespace Automaton

def bytes (a : Automaton) : Nat := 32 * a.states + a.tables

def fits (a : Automaton) : Bool := a.bytes ≤ 10 * 1024 * 1024

def add (a : Automaton) (states tables : Nat) : Automaton :=
  ⟨a.states + states, a.tables + tables⟩

/-- A table of `n` transitions takes 8 bytes for each, one of `n` branches takes 4 for each. -/
def addTransitions (a : Automaton) (n : Nat) : Automaton := a.add 1 (8 * n)

def addBranches (a : Automaton) (n : Nat) : Automaton := a.add 1 (4 * n)

/-- Adds something `n` times, as long as there is room. -/
def addTimes (part : Automaton → Automaton) : Nat → Automaton → Automaton
  | 0, a => a
  | n + 1, a => if a.fits then addTimes part n (part a) else a

end Automaton

/-! ## States that are shared

States of one set of characters are shared if they are the same.  Which ones there are is looked up
in a table with a fixed number of places, of which each keeps the last state that falls on it. -/

structure SharedStates where
  places : Nat
  states : Std.HashMap Nat (List Nat × Nat) := ∅

namespace SharedStates

/-- The place of a state that is described by some numbers. -/
def place (t : SharedStates) (key : List Nat) : Nat :=
  let mix (h : UInt64) (n : Nat) : UInt64 := (h ^^^ n.toUInt64) * 1099511628211
  (key.foldl mix 14695981039346656037).toNat % t.places

def find? (t : SharedStates) (key : List Nat) : Option Nat :=
  (t.states[t.place key]?).bind fun (k, id) => if k = key then some id else none

def insert (t : SharedStates) (key : List Nat) (id : Nat) : SharedStates :=
  { t with states := t.states.insert (t.place key) (key, id) }

end SharedStates

/-- An automaton while the states for a set of characters are added. -/
structure Workshop where
  automaton : Automaton
  shared : SharedStates

namespace Workshop

/-- The state with a key, which is added by `part` if it is not there. -/
def state (w : Workshop) (key : List Nat) (part : Automaton → Automaton) : Nat × Workshop :=
  match w.shared.find? key with
  | some id => (id, w)
  | none =>
    let id := w.automaton.states
    (id, ⟨part w.automaton, w.shared.insert key id⟩)

/-! ### Backward -/

/-- Adds the bytes of some characters from the first one on, which is the last to be read. -/
def addPath (stop : Nat) (w : Workshop) (bytes : ByteRanges) : Workshop :=
  let step : Nat × Workshop → Nat × Nat → Nat × Workshop := fun (id, w) (low, high) =>
    w.state [id, low, high] (·.add 1 0)
  let w := (bytes.foldl step (stop, w)).2
  { w with automaton := w.automaton.add 0 4 }

/-! ### Forward -/

/-- A state whose last transition may still be without a target. -/
structure OpenState where
  transitions : List (List Nat) := []
  last : Option (Nat × Nat) := none

def OpenState.close (s : OpenState) (target : Nat) : OpenState :=
  match s.last with
  | some (low, high) => ⟨s.transitions ++ [[low, high, target]], none⟩
  | none => s

/-- Finishes the first `count` of some open states, each of which leads to the one before it, and
the last transition of the one after them. -/
def finish : Nat → Nat → List OpenState → Workshop → List OpenState × Workshop
  | 0, target, s :: rest, w => (s.close target :: rest, w)
  | count + 1, target, s :: rest, w =>
    let transitions := (s.close target).transitions
    let (id, w) := w.state transitions.flatten (·.addTransitions transitions.length)
    finish count id rest w
  | _, _, [], w => ([], w)

/-- How many transitions of a path of open states the bytes start with. -/
def sharedLength : List OpenState → ByteRanges → Nat
  | s :: rest, b :: bytes => if s.last = some b then sharedLength rest bytes + 1 else 0
  | _, _ => 0

/-- Adds the bytes of some characters; the open states are those of the bytes before, the last one
first. -/
def addBytes (stop : Nat) (path : List OpenState) (bytes : ByteRanges) (w : Workshop) :
    List OpenState × Workshop :=
  let n := sharedLength path.reverse bytes
  let (path, w) := finish (path.length - 1 - n) stop path w
  match path, bytes.drop n with
  | s :: rest, b :: bytes =>
    (bytes.foldl (fun path b => ⟨[], some b⟩ :: path) ({ s with last := some b } :: rest), w)
  | path, _ => (path, w)

end Workshop

/-- Adds the states for one character of a set. -/
def Automaton.addSet (backward : Bool) (s : CharSet) (a : Automaton) : Automaton :=
  let all := s.ranges.flatMap fun (low, high) => byteRanges low high
  match s.single? with
  | some n => a.add (utf8 n).length 0
  | .none =>
    if s.isAscii then (a.add 1 0).addTransitions s.ranges.length
    else if backward then
      let stop := a.states + 1
      let start : Workshop := ⟨a.add 2 0, ⟨1000, ∅⟩⟩
      (all.foldl (Workshop.addPath stop) start).automaton
    else
      let stop := a.states
      let start : List Workshop.OpenState × Workshop := ([{}], ⟨a.add 1 0, ⟨10000, ∅⟩⟩)
      let (path, w) := all.foldl (fun (path, w) bytes => w.addBytes stop path bytes) start
      (Workshop.finish path.length stop path w).2.automaton

/-! ## Choices between words -/

/-- The words between those that are empty; empty ones in front count once. -/
def splitWords (words : List (List Nat)) : List (List (List Nat)) :=
  match words with
  | [] :: rest => [] :: (rest.dropWhile List.isEmpty).splitOnP List.isEmpty
  | words => words.splitOnP List.isEmpty

/-- Adds the states of a tree of words, which are no longer than `fuel`. -/
def addWords : Nat → List (List Nat) → Automaton → Automaton
  | 0, _, a => a
  | fuel + 1, words, a =>
    if words.all List.isEmpty then a
    else
      let chunks := splitWords words
      let filled := chunks.filter fun c => !c.isEmpty
      let addChunk (a : Automaton) (chunk : List (List Nat)) : Automaton :=
        let firsts := (chunk.filterMap List.head?).eraseDups
        let tails (b : Nat) : List (List Nat) :=
          (chunk.filter fun w => w.head? == some b).map List.tail
        let a := if firsts.length = 1 then a.add 1 0 else a.addTransitions firsts.length
        firsts.foldl (fun a b => addWords fuel (tails b) a) a
      (filled.foldl addChunk a).addBranches (filled.length + chunks.length - 1)

/-! ## Expressions -/

namespace Expr

/-- The bytes of an expression that is a sequence of certain characters. -/
def word? : Expr → Option (List Nat)
  | char s => s.single?.map utf8
  | seq a b => do return (← a.word?) ++ (← b.word?)
  | _ => none

def isAlt : Expr → Bool
  | alt _ _ => true
  | _ => false

/-- What a choice adds after its branch number `rank`, counted from zero. -/
def addBranch (rank : Nat) (a : Automaton) : Automaton :=
  if rank = 0 then a else if rank = 1 then a.add 2 8 else a.add 0 4

/-- Adds the states of an expression. A choice within a choice goes on with its branches, of which
there were `rank` before. -/
def addTo (backward : Bool) : Expr → Nat → Automaton → Automaton
  | empty, _, a => a.add 1 0
  | edge _, _, a => a.add 1 0
  | char s, _, a => a.addSet backward s
  | group _ e, _, a =>
    if backward then e.addTo backward 0 a else (e.addTo backward 0 (a.add 1 0)).add 1 0
  | seq x y, _, a =>
    if backward then x.addTo backward 0 (y.addTo backward 0 a)
    else y.addTo backward 0 (x.addTo backward 0 a)
  | alt x y, rank, a =>
    match if rank = 0 then (alt x y).branches.mapM word? else none with
    | some words =>
      let words := if backward then words.map List.reverse else words
      addWords (words.foldl (fun n w => max n w.length) 0 + 1) words (a.add 1 0)
    | none =>
      let a := addBranch rank (x.addTo backward 0 a)
      if y.isAlt then y.addTo backward (rank + 1) a
      else addBranch (rank + 1) (y.addTo backward 0 a)
  | .repeat e least most _, _, a =>
    let once := e.addTo backward 0
    match least, most with
    | 0, some 1 => (once (a.addBranches 2)).add 1 0
    | 0, none =>
      if e.fewest.any (0 < ·) then once (a.addBranches 2)
      else ((once a).addBranches 2).addBranches 2 |>.add 1 0
    | n + 1, none => (Automaton.addTimes once (n + 1) a).addBranches 2
    | least, some most =>
      let a := if least = 0 then a.add 1 0 else Automaton.addTimes once least a
      if least = most then a
      else Automaton.addTimes (fun a => once (a.addBranches 2)) (most - least) (a.add 1 0)

/-- Whether every match starts at an edge. -/
def opensWith (side : Edge) : Expr → Bool
  | edge e => e = side
  | group _ e => e.opensWith side
  | seq a b => a.opensWith side || (a.isWidthless && b.opensWith side)
  | alt a b => a.opensWith side && b.opensWith side
  | .repeat e least _ _ => 0 < least && e.opensWith side
  | _ => false

/-- Whether every match ends at an edge. -/
def closesWith (side : Edge) : Expr → Bool
  | edge e => e = side
  | group _ e => e.closesWith side
  | seq a b => b.closesWith side || (b.isWidthless && a.closesWith side)
  | alt a b => a.closesWith side && b.closesWith side
  | .repeat e least _ _ => 0 < least && e.closesWith side
  | _ => false

/-- An automaton that is about to search: it may pass over any bytes, unless it can find a match at
one end of the text only. -/
def searching (anchored : Bool) : Automaton := if anchored then ⟨1, 0⟩ else ⟨3, 16⟩

/-- The automaton that reads a text forward; it notes where a match starts and ends. -/
def forward (e : Expr) : Automaton :=
  ((group 0 e).addTo false 0 (searching (e.opensWith .textStart))).add 1 0

/-- The automaton that reads a text from its end. -/
def backward (e : Expr) : Automaton :=
  (e.addTo true 0 (searching (e.closesWith .textEnd))).add 1 0

def fits (e : Expr) : Bool := e.forward.fits && e.backward.fits

end Expr

end ModuleSharing.Pattern
