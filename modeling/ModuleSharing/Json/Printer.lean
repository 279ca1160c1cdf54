import ModuleSharing.Decimal.Shortest
import ModuleSharing.Json.Basic

/-!
# Writing JSON

`Json.compact` writes a value without blanks, `Json.pretty` one member or item a line with two
spaces of indentation.  Both put the text in front of what follows, so that a writer never copies.
-/

namespace ModuleSharing.Json

/-- The two-character escapes. -/
def shortEscape? (c : Char) : Option Char :=
  match c with
  | '"' => some '"'
  | '\\' => some '\\'
  | '\x08' => some 'b'
  | '\x0c' => some 'f'
  | '\n' => some 'n'
  | '\r' => some 'r'
  | '\t' => some 't'
  | _ => none

def hexDigit (n : Nat) : Char := (Nat.toDigits 16 (n % 16)).headD '0'

/-- A character inside a string: controls, the quote and the backslash are escaped. -/
def escape (c : Char) : List Char :=
  match shortEscape? c with
  | some e => ['\\', e]
  | none =>
    if c.toNat < 0x20 then ['\\', 'u', '0', '0', hexDigit (c.toNat / 16), hexDigit c.toNat] else [c]

def stringChars (cs : List Char) (rest : List Char) : List Char :=
  match cs with
  | [] => '"' :: rest
  | c :: cs => escape c ++ stringChars cs rest

def writeString (s : String) (rest : List Char) : List Char := '"' :: stringChars s.toList rest

/-- Doubles from `1e-5` up to `1e16` are written out. -/
def realLayout : Decimal.Layout := ⟨-5, 16⟩

def Number.chars : Number → List Char
  | .natural n => Text.numeral n
  | .negative n => '-' :: Text.numeral n
  | .real bits => realLayout.chars bits

mutual

def write : Json → List Char → List Char
  | null, rest => 'n' :: 'u' :: 'l' :: 'l' :: rest
  | bool true, rest => 't' :: 'r' :: 'u' :: 'e' :: rest
  | bool false, rest => 'f' :: 'a' :: 'l' :: 's' :: 'e' :: rest
  | number n, rest => n.chars ++ rest
  | string s, rest => writeString s rest
  | array [], rest => '[' :: ']' :: rest
  | array (x :: xs), rest => '[' :: x.write (writeItems xs (']' :: rest))
  | object [], rest => '{' :: '}' :: rest
  | object ((k, x) :: xs), rest =>
    '{' :: writeString k (':' :: x.write (writeMembers xs ('}' :: rest)))
termination_by structural j => j

/-- The items after the first. -/
def writeItems : List Json → List Char → List Char
  | [], rest => rest
  | x :: xs, rest => ',' :: x.write (writeItems xs rest)
termination_by structural j => j

/-- The members after the first. -/
def writeMembers : List (String × Json) → List Char → List Char
  | [], rest => rest
  | (k, x) :: xs, rest => ',' :: writeString k (':' :: x.write (writeMembers xs rest))
termination_by structural j => j

end

def compact (j : Json) : String := String.ofList (j.write [])

/-! ## Indented text -/

private def newline (depth : Nat) (rest : List Char) : List Char :=
  '\n' :: List.replicate (2 * depth) ' ' ++ rest

mutual

def writePretty (depth : Nat) : Json → List Char → List Char
  | array (x :: xs), rest =>
    '[' :: newline (depth + 1)
      (x.writePretty (depth + 1) (writePrettyItems depth xs (newline depth (']' :: rest))))
  | object ((k, x) :: xs), rest =>
    '{' :: newline (depth + 1) (writeString k (':' :: ' ' ::
      x.writePretty (depth + 1) (writePrettyMembers depth xs (newline depth ('}' :: rest)))))
  | j, rest => j.write rest
termination_by structural j => j

def writePrettyItems (depth : Nat) : List Json → List Char → List Char
  | [], rest => rest
  | x :: xs, rest =>
    ',' :: newline (depth + 1) (x.writePretty (depth + 1) (writePrettyItems depth xs rest))
termination_by structural j => j

def writePrettyMembers (depth : Nat) : List (String × Json) → List Char → List Char
  | [], rest => rest
  | (k, x) :: xs, rest =>
    ',' :: newline (depth + 1) (writeString k (':' :: ' ' ::
      x.writePretty (depth + 1) (writePrettyMembers depth xs rest)))
termination_by structural j => j

end

def pretty (j : Json) : String := String.ofList (j.writePretty 0 [])

end ModuleSharing.Json
