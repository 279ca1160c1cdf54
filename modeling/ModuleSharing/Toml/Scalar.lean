import ModuleSharing.Toml.Text

/-!
# Numbers and dates in TOML

Integers have 64 bits with a sign, floats are doubles.  A date or time becomes an object that holds
its text.
-/

namespace ModuleSharing.Toml

open Json (Draft)

/-! ## Numbers -/

/-- Digits that may be separated by single underscores, without the underscores. -/
def readDigits (isDigit : Char → Bool) : List Char → Option (List Char × List Char)
  | [] => none
  | c :: cs =>
    if isDigit c then
      match cs with
      | '_' :: rest => (readDigits isDigit rest).map fun (ds, rest) => (c :: ds, rest)
      | d :: rest =>
        if isDigit d then (readDigits isDigit (d :: rest)).map fun (ds, rest) => (c :: ds, rest)
        else some ([c], d :: rest)
      | [] => some ([c], [])
    else none

/-- The integer `n` or `-n`, if it fits in 64 bits with a sign. -/
def integer? (negative : Bool) (n : Nat) : Option Draft :=
  if negative then
    if n = 0 then some (.number (.natural 0))
    else if n ≤ Nat.pow 2 63 then some (.number (.negative n))
    else none
  else if n < Nat.pow 2 63 then some (.number (.natural n))
  else none

def ofRadix (radix : Nat) (ds : List Char) : Nat :=
  ds.foldl (fun n d => radix * n + (Json.hexValue? d).getD 0) 0

def float (f : Float) : Draft := .number (.real f.toBits)

/-- A float from its sign and the digits before and after the point, times a power of ten. -/
def decimal? (negative : Bool) (whole fraction : List Char) (exponent : Int) : Option Draft :=
  let mantissa := Text.value (whole ++ fraction)
  let e := exponent - fraction.length
  let f := if mantissa = 0 then 0.0 else
    if e.natAbs > 5000 + whole.length + fraction.length then (if e > 0 then 1.0 / 0.0 else 0.0)
    else Float.ofScientific mantissa (e < 0) e.natAbs
  let f := if negative then -f else f
  if f.isInf && f > 0 then none else some (float f)

def readSign : List Char → Option Bool × List Char
  | '+' :: cs => (some false, cs)
  | '-' :: cs => (some true, cs)
  | cs => (none, cs)

/-- An exponent with its sign. -/
def readExponent (cs : List Char) : Option (Int × List Char) := do
  let (sign, cs) := readSign cs
  let (ds, cs) ← readDigits Text.isDigit cs
  let n : Int := Text.value ds
  some (if sign = some true then -n else n, cs)

/-- What follows the whole part of a decimal number. -/
def readDecimalRest (negative : Bool) (whole : List Char) (cs : List Char) :
    Option (Draft × List Char) :=
  match cs with
  | '.' :: cs => do
    let (fraction, cs) ← readDigits Text.isDigit cs
    match cs with
    | c :: rest =>
      if c == 'e' || c == 'E' then do
        let (e, rest) ← readExponent rest
        some (← decimal? negative whole fraction e, rest)
      else some (← decimal? negative whole fraction 0, cs)
    | [] => some (← decimal? negative whole fraction 0, [])
  | c :: rest =>
    if c == 'e' || c == 'E' then do
      let (e, rest) ← readExponent rest
      some (← decimal? negative whole [] e, rest)
    else (integer? negative (Text.value whole)).map (·, cs)
  | [] => (integer? negative (Text.value whole)).map (·, [])

/-- An integer in another base than ten, after its mark. -/
def readRadix (radix : Nat) (isDigit : Char → Bool) (cs : List Char) :
    Option (Draft × List Char) := do
  let (ds, cs) ← readDigits isDigit cs
  some (← integer? false (ofRadix radix ds), cs)

def readNumber (cs : List Char) : Option (Draft × List Char) :=
  let (sign, rest) := readSign cs
  let negative := sign = some true
  match sign, rest with
  | _, 'i' :: 'n' :: 'f' :: cs => some (float (if negative then -1.0 / 0.0 else 1.0 / 0.0), cs)
  | _, 'n' :: 'a' :: 'n' :: cs => some (float (0.0 / 0.0), cs)
  | none, '0' :: 'x' :: cs => readRadix 16 (fun c => (Json.hexValue? c).isSome) cs
  | none, '0' :: 'o' :: cs => readRadix 8 (fun c => '0' ≤ c && c ≤ '7') cs
  | none, '0' :: 'b' :: cs => readRadix 2 (fun c => c == '0' || c == '1') cs
  | _, cs => do
    let (whole, cs) ← readDigits Text.isDigit cs
    if whole.length > 1 && whole.head? == some '0' then none else readDecimalRest negative whole cs

/-! ## Dates and times -/

/-- Exactly `n` digits, and the number they stand for. -/
def readFixed (n : Nat) (cs : List Char) : Option (Nat × List Char) :=
  let ds := cs.take n
  if ds.length = n ∧ ds.all Text.isDigit then some (Text.value ds, cs.drop n) else none

def isLeapYear (y : Nat) : Bool := y % 4 == 0 && (y % 100 != 0 || y % 400 == 0)

def daysInMonth (y m : Nat) : Nat :=
  if m == 2 then (if isLeapYear y then 29 else 28)
  else if [4, 6, 9, 11].contains m then 30
  else 31

def skip (c : Char) : List Char → Option (List Char)
  | [] => none
  | d :: cs => if c == d then some cs else none

/-- Digits of `n` with zeros before them, up to `width` digits. -/
def padded (width n : Nat) : List Char :=
  let ds := Text.numeral n
  List.replicate (width - ds.length) '0' ++ ds

def readDate (cs : List Char) : Option (List Char × List Char) := do
  let (y, cs) ← readFixed 4 cs
  let (m, cs) ← readFixed 2 (← skip '-' cs)
  let (d, cs) ← readFixed 2 (← skip '-' cs)
  if m = 0 || m > 12 || d = 0 || d > daysInMonth y m then none
  else some (padded 4 y ++ '-' :: padded 2 m ++ '-' :: padded 2 d, cs)

/-- Digits after a point, to the nanosecond, without final zeros. -/
def readSecondFraction : List Char → Option (List Char × List Char)
  | '.' :: cs =>
    let ds := cs.takeWhile Text.isDigit
    if ds.isEmpty then none
    else
      let kept := ((ds.take 9).reverse.dropWhile (· == '0')).reverse
      some (if kept.isEmpty then [] else '.' :: kept, cs.dropWhile Text.isDigit)
  | cs => some ([], cs)

def readTime (cs : List Char) : Option (List Char × List Char) := do
  let (h, cs) ← readFixed 2 cs
  let (m, cs) ← readFixed 2 (← skip ':' cs)
  let (s, cs) ← readFixed 2 (← skip ':' cs)
  let (fraction, cs) ← readSecondFraction cs
  if h > 23 || m > 59 || s > 60 then none
  else some (padded 2 h ++ ':' :: padded 2 m ++ ':' :: padded 2 s ++ fraction, cs)

/-- A difference to universal time, if one follows; no difference is written with a plus. -/
def readOffset : List Char → Option (List Char × List Char)
  | 'Z' :: cs => some (['Z'], cs)
  | 'z' :: cs => some (['Z'], cs)
  | c :: cs =>
    if c == '+' || c == '-' then do
      let (h, cs) ← readFixed 2 cs
      let (m, cs) ← readFixed 2 (← skip ':' cs)
      let sign := if h = 0 && m = 0 then '+' else c
      if h > 23 || m > 59 then none else some (sign :: padded 2 h ++ ':' :: padded 2 m, cs)
    else some ([], c :: cs)
  | [] => some ([], [])

/-- The object that stands for a date or time. -/
def moment (text : List Char) : Draft :=
  .object [("$__toml_private_datetime", .string (String.ofList text))] none

/-- What follows a date: nothing, or a time after a `T` or a blank. -/
def readAfterDate (date : List Char) (cs : List Char) : Option (Draft × List Char) :=
  match cs with
  | c :: rest =>
    let isTime := c == 'T' || c == 't' || (c == ' ' && (readFixed 2 rest).isSome)
    if isTime then do
      let (time, rest) ← readTime rest
      let (offset, rest) ← readOffset rest
      some (moment (date ++ 'T' :: time ++ offset), rest)
    else some (moment date, cs)
  | [] => some (moment date, [])

/-- Whether a date comes next. -/
def startsDate (cs : List Char) : Bool :=
  (readFixed 4 cs).any fun (_, rest) => rest.head? == some '-'

/-- Whether a time comes next. -/
def startsTime (cs : List Char) : Bool :=
  (readFixed 2 cs).any fun (_, rest) => rest.head? == some ':'

/-- A number, a date or a time. -/
def readScalar (cs : List Char) : Option (Draft × List Char) :=
  if startsDate cs then do
    let (date, rest) ← readDate cs
    readAfterDate date rest
  else if startsTime cs then (readTime cs).map fun (t, rest) => (moment t, rest)
  else readNumber cs

end ModuleSharing.Toml
