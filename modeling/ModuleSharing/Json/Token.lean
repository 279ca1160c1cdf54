import ModuleSharing.Json.Draft
import ModuleSharing.Text.Decimal

/-!
# The words, strings and numbers of a JSON text

Texts are lists of characters; each reader takes what it needs from the front.
-/

namespace ModuleSharing.Json

/-- The blanks between the tokens of a JSON text. -/
def isGap (c : Char) : Bool := c == ' ' || c == '\n' || c == '\t' || c == '\r'

def skipGap (cs : List Char) : List Char := cs.dropWhile isGap

/-! ## Words -/

/-- The rest of a text after the given letters. -/
def readWord : List Char → List Char → Except Fault (List Char)
  | [], cs => .ok cs
  | _ :: _, [] => .error .cutOff
  | w :: ws, c :: cs => if w == c then readWord ws cs else .error .malformed

/-! ## Strings -/

def hexValue? (c : Char) : Option Nat :=
  if '0' ≤ c ∧ c ≤ '9' then some (c.toNat - 48)
  else if 'a' ≤ c ∧ c ≤ 'f' then some (c.toNat - 87)
  else if 'A' ≤ c ∧ c ≤ 'F' then some (c.toNat - 55)
  else none

/-- The number that four hexadecimal digits stand for. -/
def unit? (a b c d : Char) : Option Nat := do
  return ((← hexValue? a) * 16 + (← hexValue? b)) * 256 + (← hexValue? c) * 16 + (← hexValue? d)

/-- The character that a letter after a backslash stands for. -/
def unescape? (c : Char) : Option Char :=
  match c with
  | '"' => some '"'
  | '\\' => some '\\'
  | '/' => some '/'
  | 'b' => some '\x08'
  | 'f' => some '\x0c'
  | 'n' => some '\n'
  | 'r' => some '\r'
  | 't' => some '\t'
  | _ => none

def isHighSurrogate (n : Nat) : Bool := 0xD800 ≤ n && n ≤ 0xDBFF

def isLowSurrogate (n : Nat) : Bool := 0xDC00 ≤ n && n ≤ 0xDFFF

/-- The character of a pair of surrogates. -/
def pairChar (high low : Nat) : Char :=
  Char.ofNat (0x10000 + (high - 0xD800) * 0x400 + (low - 0xDC00))

/-- Puts a character in front of a string that has been read. -/
def consChar (c : Char) (r : Except Fault (List Char × List Char)) :
    Except Fault (List Char × List Char) :=
  r.map fun (s, rest) => (c :: s, rest)

/-- What is wrong with an escape by code point that has fewer than four characters left: a text of
less than four bytes ends too early. -/
def shortEscape (cs : List Char) : Fault :=
  if (cs.map Char.utf8Size).foldl (· + ·) 0 < 4 then .cutOff else .malformed

/-- The characters up to the closing quote, and the text after it. -/
def readChars : List Char → Except Fault (List Char × List Char)
  | [] => .error .cutOff
  | '"' :: rest => .ok ([], rest)
  | '\\' :: 'u' :: a :: b :: c :: d :: rest =>
    match unit? a b c d with
    | none => .error .malformed
    | some n =>
      if isLowSurrogate n then .error .malformed
      else if isHighSurrogate n then
        match rest with
        | [] => .error .cutOff
        | ['\\'] => .error .cutOff
        | '\\' :: 'u' :: e :: f :: g :: h :: rest =>
          match unit? e f g h with
          | none => .error .malformed
          | some m =>
            if isLowSurrogate m then consChar (pairChar n m) (readChars rest)
            else .error .malformed
        | '\\' :: 'u' :: rest => .error (shortEscape rest)
        | _ => .error .malformed
      else consChar (Char.ofNat n) (readChars rest)
  | '\\' :: 'u' :: rest => .error (shortEscape rest)
  | ['\\'] => .error .cutOff
  | '\\' :: c :: rest =>
    match unescape? c with
    | none => .error .malformed
    | some e => consChar e (readChars rest)
  | c :: rest => if c.toNat < 0x20 then .error .malformed else consChar c (readChars rest)

/-! ## Numbers -/

/-- The exponent that is taken for one too large to matter. -/
def exponentLimit : Nat := Nat.pow 2 31 - 1

/-- A power of ten that a double can hold. -/
def powerOfTen (n : Nat) : Float := Float.ofScientific 1 false n

/-- The double for `f * 10^exponent`: one multiplication or division by a power of ten, after
divisions by `1e308` for an exponent far below zero. `none` if it is too large. -/
def scaled? : Nat → Float → Int → Option Float
  | 0, f, _ => some f
  | fuel + 1, f, exponent =>
    if exponent.natAbs ≤ 308 then
      if exponent ≥ 0 then
        let g := f * powerOfTen exponent.natAbs
        if g.isInf then none else some g
      else some (f / powerOfTen exponent.natAbs)
    else if f == 0.0 then some f
    else if exponent ≥ 0 then none
    else scaled? fuel (f / 1e308) (exponent + 308)

/-- A double from its sign, significand and exponent. -/
def real (negative : Bool) (significand : Nat) (exponent : Int) : Except Fault Number :=
  match scaled? 8 significand.toUInt64.toFloat exponent with
  | none => .error .malformed
  | some f => .ok (.real (if negative then -f else f).toBits)

/-- The longest beginning of a run of digits, after a number that has been read, that keeps the
number within 64 bits; the digits after it. -/
def takeWord (n : Nat) : List Char → Nat × List Char
  | [] => (n, [])
  | d :: ds =>
    let next := 10 * n + Text.value [d]
    if next ≤ Text.maxWord then takeWord next ds else (n, d :: ds)

/-- The digits after an exponent sign, and the text after them. -/
def readExponent (cs : List Char) : Except Fault (Int × List Char) :=
  let (negative, cs) :=
    match cs with
    | '+' :: cs => (false, cs)
    | '-' :: cs => (true, cs)
    | cs => (false, cs)
  match cs.takeWhile Text.isDigit, cs.dropWhile Text.isDigit with
  | [], [] => .error .cutOff
  | [], _ :: _ => .error .malformed
  | ds, rest =>
    let n : Int := min (Text.value ds) exponentLimit
    .ok (if negative then -n else n, rest)

/-- What stands after the whole part of a number: an exponent, or nothing. -/
def finishReal (negative : Bool) (significand : Nat) (exponent : Int) :
    List Char → Except Fault (Number × List Char)
  | c :: cs =>
    if c == 'e' || c == 'E' then do
      let (e, rest) ← readExponent cs
      .ok (← real negative significand (exponent + e), rest)
    else do .ok (← real negative significand exponent, c :: cs)
  | [] => do .ok (← real negative significand exponent, [])

/-- The digits after a decimal point. `exponent` counts the digits before it that were left out. -/
def readFraction (negative : Bool) (significand : Nat) (exponent : Int) (cs : List Char) :
    Except Fault (Number × List Char) :=
  match cs.takeWhile Text.isDigit, cs.dropWhile Text.isDigit with
  | [], [] => .error .cutOff
  | [], _ :: _ => .error .malformed
  | ds, rest =>
    let (significand, unused) := takeWord significand ds
    finishReal negative significand (exponent - (ds.length - unused.length)) rest

/-- A number without point or exponent that fits in 64 bits. -/
def integer (negative : Bool) (n : Nat) : Number :=
  if !negative then .natural n
  else if n == 0 || n > Nat.pow 2 63 then .real (-n.toUInt64.toFloat).toBits
  else .negative n

/-- A number, after its minus sign if it has one. -/
def readNumber (negative : Bool) (cs : List Char) : Except Fault (Number × List Char) :=
  match cs.takeWhile Text.isDigit, cs.dropWhile Text.isDigit with
  | [], [] => .error .cutOff
  | [], _ :: _ => .error .malformed
  | d :: ds, rest =>
    if d == '0' && !ds.isEmpty then .error .malformed
    else
      let (significand, unused) := takeWord 0 (d :: ds)
      match rest with
      | '.' :: cs => readFraction negative significand unused.length cs
      | rest =>
        if unused.isEmpty && !(rest.head? == some 'e' || rest.head? == some 'E') then
          .ok (integer negative significand, rest)
        else finishReal negative significand unused.length rest

end ModuleSharing.Json
