import ModuleSharing.Json.Reader

/-!
# Texts and keys in TOML

Strings in their four forms, bare keys, and the blanks, line ends and comments between tokens.  A
reader takes what it needs from the front of the text and has no result on malformed text.
-/

namespace ModuleSharing.Toml

/-! ## Between tokens -/

def isSpace (c : Char) : Bool := c == ' ' || c == '\t'

def skipSpace (cs : List Char) : List Char := cs.dropWhile isSpace

/-- Characters other than controls; the tab counts as a character. -/
def isPrintable (c : Char) : Bool := c == '\t' || (0x20 ≤ c.toNat && c.toNat != 0x7F)

/-- The rest of a text after a line end. -/
def lineEnd? : List Char → Option (List Char)
  | '\n' :: cs => some cs
  | '\r' :: '\n' :: cs => some cs
  | _ => none

/-- Passes over a comment if there is one. -/
def skipComment : List Char → List Char
  | '#' :: cs => cs.dropWhile isPrintable
  | cs => cs

/-- What ends a line: blanks, a comment, and a line end or the end of the text. -/
def finishLine (cs : List Char) : Option (List Char) :=
  match skipComment (skipSpace cs) with
  | [] => some []
  | cs => lineEnd? cs

/-- Passes over blanks, comments and line ends. -/
def skipLines : Nat → List Char → List Char
  | 0, cs => cs
  | fuel + 1, cs =>
    let cs := skipComment (skipSpace cs)
    match lineEnd? cs with
    | some cs => skipLines fuel cs
    | none => cs

/-! ## Strings -/

/-- The code point of hexadecimal digits, unless it is a surrogate. -/
def scalar? (ds : List Char) : Option Char := do
  let n ← ds.foldlM (fun n d => (Json.hexValue? d).map fun v => 16 * n + v) 0
  if n > 0x10FFFF || (0xD800 ≤ n && n ≤ 0xDFFF) then none else some (Char.ofNat n)

/-- The character of an escape, and the text after it. -/
def readEscape : List Char → Option (Char × List Char)
  | 'b' :: cs => some ('\x08', cs)
  | 't' :: cs => some ('\t', cs)
  | 'n' :: cs => some ('\n', cs)
  | 'f' :: cs => some ('\x0c', cs)
  | 'r' :: cs => some ('\r', cs)
  | '"' :: cs => some ('"', cs)
  | '\\' :: cs => some ('\\', cs)
  | 'u' :: a :: b :: c :: d :: cs => (scalar? [a, b, c, d]).map (·, cs)
  | 'U' :: a :: b :: c :: d :: e :: f :: g :: h :: cs =>
    (scalar? [a, b, c, d, e, f, g, h]).map (·, cs)
  | _ => none

/-- The rest of a string between double quotes. -/
def readBasic : Nat → List Char → Option (List Char × List Char)
  | 0, _ => none
  | _, [] => none
  | fuel + 1, c :: cs =>
    if c == '"' then some ([], cs)
    else if c == '\\' then do
      let (e, cs) ← readEscape cs
      let (s, cs) ← readBasic fuel cs
      some (e :: s, cs)
    else if isPrintable c then do
      let (s, cs) ← readBasic fuel cs
      some (c :: s, cs)
    else none

/-- The rest of a string between single quotes. -/
def readLiteral : List Char → Option (List Char × List Char)
  | [] => none
  | c :: cs =>
    if c == '\'' then some ([], cs)
    else if isPrintable c then (readLiteral cs).map fun (s, rest) => (c :: s, rest)
    else none

/-- Closing quotes: three, after up to two that belong to the string. -/
def closing? (quote : Char) (cs : List Char) : Option (List Char × List Char) :=
  let count := (cs.takeWhile (· == quote)).length
  if count ≥ 3 then
    let inside := min (count - 3) 2
    some (List.replicate inside quote, cs.drop (inside + 3))
  else none

/-- Passes over the blanks and line ends after a backslash that ends a line. -/
def skipFold : List Char → List Char
  | [] => []
  | c :: cs =>
    if isSpace c || c == '\n' then skipFold cs
    else if c == '\r' && cs.head? == some '\n' then skipFold cs
    else c :: cs

/-- The rest of a string between triple double quotes. -/
def readLongBasic : Nat → List Char → Option (List Char × List Char)
  | 0, _ => none
  | _, [] => none
  | fuel + 1, c :: cs =>
    match closing? '"' (c :: cs) with
    | some r => some r
    | none =>
      if c == '\\' then
        match lineEnd? (skipSpace cs) with
        | some cs => readLongBasic fuel (skipFold cs)
        | none => do
          let (e, cs) ← readEscape cs
          let (s, cs) ← readLongBasic fuel cs
          some (e :: s, cs)
      else
        match lineEnd? (c :: cs) with
        | some cs => (readLongBasic fuel cs).map fun (s, rest) => ('\n' :: s, rest)
        | none =>
          if isPrintable c then (readLongBasic fuel cs).map fun (s, rest) => (c :: s, rest)
          else none

/-- The rest of a string between triple single quotes. -/
def readLongLiteral : Nat → List Char → Option (List Char × List Char)
  | 0, _ => none
  | _, [] => none
  | fuel + 1, c :: cs =>
    match closing? '\'' (c :: cs) with
    | some r => some r
    | none =>
      match lineEnd? (c :: cs) with
      | some cs => (readLongLiteral fuel cs).map fun (s, rest) => ('\n' :: s, rest)
      | none =>
        if isPrintable c then (readLongLiteral fuel cs).map fun (s, rest) => (c :: s, rest)
        else none

/-- A line end right after opening quotes does not count. -/
def skipFirstLineEnd (cs : List Char) : List Char := (lineEnd? cs).getD cs

private def asString (r : Option (List Char × List Char)) : Option (String × List Char) :=
  r.map fun (s, rest) => (String.ofList s, rest)

/-- A string of one line. -/
def readShortString : List Char → Option (String × List Char)
  | '"' :: cs => asString (readBasic (cs.length + 1) cs)
  | '\'' :: cs => asString (readLiteral cs)
  | _ => none

def readString : List Char → Option (String × List Char)
  | '"' :: '"' :: '"' :: cs => asString (readLongBasic (cs.length + 1) (skipFirstLineEnd cs))
  | '\'' :: '\'' :: '\'' :: cs => asString (readLongLiteral (cs.length + 1) (skipFirstLineEnd cs))
  | cs => readShortString cs

/-! ## Keys -/

def isBareKeyChar (c : Char) : Bool := c.isAlphanum || c == '_' || c == '-'

def readSimpleKey (cs : List Char) : Option (String × List Char) :=
  match cs with
  | '"' :: _ => readShortString cs
  | '\'' :: _ => readShortString cs
  | _ =>
    match cs.takeWhile isBareKeyChar with
    | [] => none
    | key => some (String.ofList key, cs.dropWhile isBareKeyChar)

/-- How many parts a key may have, and how deep arrays and inline tables may be nested. -/
def maxNesting : Nat := 79

/-- At most so many keys separated by dots, with blanks around each. -/
def readParts : Nat → List Char → Option (List String × List Char)
  | 0, _ => none
  | count + 1, cs => do
    let (key, cs) ← readSimpleKey (skipSpace cs)
    match skipSpace cs with
    | '.' :: cs => do
      let (keys, cs) ← readParts count cs
      some (key :: keys, cs)
    | cs => some ([key], cs)

/-- A key that may be dotted. -/
def readKey (cs : List Char) : Option (List String × List Char) := readParts maxNesting cs

end ModuleSharing.Toml
