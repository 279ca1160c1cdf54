import ModuleSharing.Text.Decimal

/-!
# Writing TOML

Tables of strings and natural numbers, one line a key.  A string is written in the first of four
forms that needs no escapes: between double quotes, single quotes, triple double quotes or triple
single quotes.
-/

namespace ModuleSharing.Toml

/-! ## Strings -/

/-- The longest run of a character. -/
def longestRun (c : Char) (cs : List Char) : Nat :=
  let step (state : Nat × Nat) (d : Char) : Nat × Nat :=
    if d == c then (state.1 + 1, max (state.1 + 1) state.2) else (0, state.2)
  (cs.foldl step (0, 0)).2

/-- Controls that only an escape can write. -/
def needsCode (c : Char) : Bool :=
  (c.toNat < 0x20 && c != '\t' && c != '\n') || c.toNat == 0x7F

/-- Four upper-case hexadecimal digits. -/
def code (n : Nat) : List Char :=
  let ds := (Nat.toDigits 16 n).map Char.toUpper
  List.replicate (4 - ds.length) '0' ++ ds

/-- Escapes between double quotes; `run` double quotes stand just before, and `allowed` may stand
together. -/
def escapeChars (long : Bool) (run : Nat) : List Char → List Char
  | [] => []
  | c :: cs =>
    if c == '"' then
      if run < (if long then 2 else 0) then '"' :: escapeChars long (run + 1) cs
      else '\\' :: '"' :: escapeChars long 0 cs
    else if c == '\n' && long then '\n' :: escapeChars long 0 cs
    else
      let short : Option Char :=
        match c with
        | '\x08' => some 'b'
        | '\t' => some 't'
        | '\n' => some 'n'
        | '\x0c' => some 'f'
        | '\r' => some 'r'
        | '\\' => some '\\'
        | _ => none
      match short with
      | some e => '\\' :: e :: escapeChars long 0 cs
      | none =>
        if c.toNat < 0x20 || c.toNat == 0x7F then
          '\\' :: 'u' :: code c.toNat ++ escapeChars long 0 cs
        else c :: escapeChars long 0 cs

/-- A string in the plainest form that can hold it. -/
def quotedChars (cs : List Char) : List Char :=
  let newline := cs.contains '\n'
  let backslash := cs.contains '\\'
  let codes := cs.any needsCode
  let start := if newline then ['\n'] else []
  let short := '"' :: escapeChars false 0 cs ++ ['"']
  let long := ['"', '"', '"'] ++ start ++ escapeChars true 0 cs ++ ['"', '"', '"']
  if !codes && !backslash && longestRun '"' cs = 0 && !newline then short
  else if !codes && longestRun '\'' cs = 0 && !newline then '\'' :: cs ++ ['\'']
  else if !codes && !backslash && longestRun '"' cs ≤ 2 then long
  else if !codes && longestRun '\'' cs ≤ 2 then
    ['\'', '\'', '\''] ++ start ++ cs ++ ['\'', '\'', '\'']
  else if newline then long
  else short

/-! ## Tables -/

inductive Value where
  | text (s : String)
  | natural (n : Nat)
deriving DecidableEq, Repr

def Value.chars : Value → List Char
  | text s => quotedChars s.toList
  | natural n => Text.numeral n

/-- A header and its keys; a key without value is left out. -/
def writeTable (name : String) (keys : List (String × Option Value)) : String :=
  "[" ++ name ++ "]\n" ++ String.join (keys.map fun (key, value) =>
    value.elim "" fun v => key ++ " = " ++ String.ofList v.chars ++ "\n")

/-- Tables with an empty line between them. -/
def write (tables : List (String × List (String × Option Value))) : String :=
  "\n".intercalate (tables.map fun (name, keys) => writeTable name keys)

end ModuleSharing.Toml
