import ModuleSharing.Character.Letters
import ModuleSharing.Character.Property
import ModuleSharing.Pattern.Expression
import ModuleSharing.Pattern.Reader

/-!
# What follows a backslash

Characters by their numbers, classes of characters and edges of words.
-/

namespace ModuleSharing.Pattern

open Character

/-- What an escape, or a character alone, stands for. -/
inductive Atom where
  | literal (n : Nat)
  | class (s : CharSet)
  | edge (e : Edge)

/-- Every character that is in the set but for its case, if case does not count. -/
def Flags.fold (f : Flags) (s : CharSet) : CharSet :=
  if !f.ignoreCase then s else if f.unicode then s.folded else s.asciiFolded

/-- The opposite of a set; without Unicode it would have bytes that are no characters. -/
def opposite (f : Flags) (s : CharSet) : Reader CharSet :=
  if f.unicode then return s.compl else failure

open Reader

/-- The number of a character after `\x`, `\u` or `\U`: in braces, or of exactly `digits` digits.
Two digits stand for a byte without Unicode, which has to be a character. -/
def readHex (f : Flags) (digits : Nat) : Reader Nat := do
  skipSpace f
  if ← accept ['{'] then codePoint (← braced f)
  else
    let n ← codePoint (← takeMany f digits)
    if !f.unicode && digits = 2 && n > 127 then failure
    return n

/-- The classes `\d`, `\s` and `\w` and, in capitals, their opposites. -/
def readPerl (f : Flags) (c : Char) : Reader CharSet :=
  let set : CharSet :=
    match c.toLower with
    | 'd' => if f.unicode then decimalDigit else .ofText "30-39"
    | 's' => if f.unicode then whiteSpace else .ofText "9-D 20"
    | _ => if f.unicode then wordCharacter else .ofText "30-39 41-5A 5F 61-7A"
  if c.isUpper then opposite f set else return set

/-- A property after `\p`, or `\P` for its opposite: one letter, or a name in braces. -/
def readProperty (f : Flags) (negated : Bool) : Reader CharSet := do
  if !f.unicode then failure
  skipSpace f
  let name ←
    if ← accept ['{'] then braced f
    else do
      let c ← next
      if c == '\\' then failure
      pure [c]
  let some (set, outside) := property? name | failure
  return if negated != outside then (f.fold set).compl else f.fold set

/-- ASCII characters that are neither letters nor digits may be escaped; angle brackets mean
something else. -/
def isEscapable (c : Char) : Bool := c.toNat < 128 && !c.isAlphanum && c != '<' && c != '>'

/-- The name of a word edge in braces after `\b`. What starts otherwise is a number of times. -/
def readEdgeName (f : Flags) : Reader Edge := do
  let s ← get
  if !(← accept ['{']) then return .wordEdge (!f.unicode)
  skipToNext f
  if (← peek).any fun c => c.isAlpha || c == '-' then
    match String.ofList (← braced f) with
    | "start" => return .wordStart (!f.unicode)
    | "end" => return .wordEnd (!f.unicode)
    | "start-half" => return .wordStartHalf (!f.unicode)
    | "end-half" => return .wordEndHalf (!f.unicode)
    | _ => failure
  else
    set s
    return .wordEdge (!f.unicode)

/-- What follows a backslash. -/
def readEscape (f : Flags) : Reader Atom := do
  let c ← next
  match c with
  | 'x' => return .literal (← readHex f 2)
  | 'u' => return .literal (← readHex f 4)
  | 'U' => return .literal (← readHex f 8)
  | 'a' => return .literal 7
  | 'f' => return .literal 12
  | 't' => return .literal 9
  | 'n' => return .literal 10
  | 'r' => return .literal 13
  | 'v' => return .literal 11
  | 'A' => return .edge .textStart
  | 'z' => return .edge .textEnd
  | 'b' => return .edge (← readEdgeName f)
  | 'B' => return .edge (.noWordEdge (!f.unicode))
  | '<' => return .edge (.wordStart (!f.unicode))
  | '>' => return .edge (.wordEnd (!f.unicode))
  | c =>
    if ['d', 's', 'w', 'D', 'S', 'W'].contains c then return .class (← readPerl f c)
    else if c.toLower == 'p' then return .class (← readProperty f c.isUpper)
    else if isEscapable c then return .literal c.toNat
    else failure

end ModuleSharing.Pattern
