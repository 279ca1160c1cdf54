import ModuleSharing.Character.Set
import ModuleSharing.Text.Blank
import ModuleSharing.Text.Decimal

/-!
# Reading the text of an expression

A reader takes characters from the front of a text, or has no result.  Under one of the flags blanks
and comments do not count; they may then stand nearly everywhere, even between the digits of a
number.
-/

namespace ModuleSharing.Pattern

open Character

/-- What the letters in a group such as `(?i)` turn on and off. -/
structure Flags where
  ignoreCase : Bool := false
  multiLine : Bool := false
  dotAll : Bool := false
  /-- Repetitions try fewer times first, unless a question mark follows. -/
  fewFirst : Bool := false
  spaced : Bool := false
  crlf : Bool := false
  unicode : Bool := true

/-- What is left of the text, the names of groups so far, and how many groups there are. -/
structure ReaderState where
  rest : List Char
  names : List (List Char) := []
  groups : Nat := 0

abbrev Reader := StateT ReaderState Option

/-- Blanks and comments, from a `#` to the end of its line, are dropped. -/
def dropSpace : Nat → List Char → List Char
  | 0, cs => cs
  | fuel + 1, cs =>
    match cs.dropWhile Text.isBlank with
    | '#' :: cs => dropSpace fuel (cs.dropWhile (· != '\n'))
    | cs => cs

namespace Reader

def peek : Reader (Option Char) := do return (← get).rest.head?

/-- The next character, which has to be there. -/
def next : Reader Char := do
  match (← get).rest with
  | [] => failure
  | c :: rest => do
    modify fun s => { s with rest }
    return c

def expect (c : Char) : Reader Unit := do if (← next) != c then failure

/-- Takes the given characters if they come next. -/
def accept (cs : List Char) : Reader Bool := do
  let s ← get
  if cs.isPrefixOf s.rest then
    set { s with rest := s.rest.drop cs.length }
    return true
  else return false

def takeWhile (p : Char → Bool) : Reader (List Char) := do
  let s ← get
  set { s with rest := s.rest.dropWhile p }
  return s.rest.takeWhile p

/-- Passes over blanks and comments where they do not count. -/
def skipSpace (f : Flags) : Reader Unit :=
  if f.spaced then modify fun s => { s with rest := dropSpace s.rest.length s.rest } else pure ()

/-- Something has to come next, after blanks and comments where they do not count. -/
def skipToNext (f : Flags) : Reader Unit := do
  skipSpace f
  if (← peek).isNone then failure

/-- The character after the next one and after blanks. A `#` counts as a blank too, but what
follows it in its line does not. If there is nothing, it is the character right after the next
one. -/
def peekSecond (f : Flags) : Reader (Option Char) := do
  let after := (← get).rest.drop 1
  if !f.spaced then return after.head?
  let ahead :=
    match after.dropWhile Text.isBlank with
    | '#' :: cs => cs.dropWhile Text.isBlank
    | cs => cs
  return ahead.head? <|> after.head?

/-- The characters up to a closing brace, which is taken too. -/
def takeBraced (f : Flags) : Nat → Reader (List Char)
  | 0 => failure
  | fuel + 1 => do
    skipSpace f
    let c ← next
    if c == '}' then return [] else return c :: (← takeBraced f fuel)

/-- The characters in braces; the opening one is taken already. -/
def braced (f : Flags) : Reader (List Char) := do takeBraced f ((← get).rest.length + 1)

/-! ## Numbers -/

/-- Digits, and blanks after each of them. -/
def takeDigits (f : Flags) : Nat → Reader (List Char)
  | 0 => return []
  | fuel + 1 => do
    match ← peek with
    | some c =>
      if Text.isDigit c then
        let _ ← next
        skipSpace f
        return c :: (← takeDigits f fuel)
      else return []
    | none => return []

/-- A number of times with blanks around it, if there is one. -/
def count (f : Flags) : Reader (Option Nat) := do
  let _ ← takeWhile Text.isBlank
  let ds ← takeDigits f (← get).rest.length
  let _ ← takeWhile Text.isBlank
  if ds.isEmpty then return none
  if Text.value ds < Nat.pow 2 32 then return some (Text.value ds) else failure

def isHex (c : Char) : Bool :=
  ('0' ≤ c && c ≤ '9') || ('a' ≤ c && c ≤ 'f') || ('A' ≤ c && c ≤ 'F')

/-- The character with a number in hexadecimal digits. -/
def codePoint (ds : List Char) : Reader Nat := do
  let n := CharSet.hexNumber ds
  if ds.isEmpty || !ds.all isHex || !n.isValidChar then failure
  return n

/-- Some characters, each after blanks where they do not count. -/
def takeMany (f : Flags) : Nat → Reader (List Char)
  | 0 => return []
  | n + 1 => do
    skipSpace f
    let c ← next
    return c :: (← takeMany f n)

end Reader

end ModuleSharing.Pattern
