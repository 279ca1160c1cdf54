import ModuleSharing.Json.Token

/-!
# Passing over JSON

Who passes over a value asks less of it than who reads it: numbers may be of any size, surrogates
may stand alone, and values may be nested to any depth.  A number that ends too early is malformed.
-/

namespace ModuleSharing.Json

/-! ## Strings and numbers -/

/-- The text after the closing quote of a string. -/
def skipChars : List Char → Except Fault (List Char)
  | [] => .error .cutOff
  | '"' :: rest => .ok rest
  | '\\' :: 'u' :: a :: b :: c :: d :: rest =>
    if (unit? a b c d).isSome then skipChars rest else .error .malformed
  | '\\' :: 'u' :: rest => .error (shortEscape rest)
  | ['\\'] => .error .cutOff
  | '\\' :: c :: rest => if (unescape? c).isSome then skipChars rest else .error .malformed
  | c :: rest => if c.toNat < 0x20 then .error .malformed else skipChars rest

/-- The text after some digits, of which there has to be one. -/
def skipDigits (cs : List Char) : Except Fault (List Char) :=
  if cs.head?.any Text.isDigit then .ok (cs.dropWhile Text.isDigit) else .error .malformed

/-- The text after an exponent, if there is one. -/
def skipExponent : List Char → Except Fault (List Char)
  | c :: cs =>
    if c == 'e' || c == 'E' then
      match cs with
      | '+' :: cs => skipDigits cs
      | '-' :: cs => skipDigits cs
      | cs => skipDigits cs
    else .ok (c :: cs)
  | [] => .ok []

/-- The text after a number without its sign. -/
def skipNumber (cs : List Char) : Except Fault (List Char) := do
  let rest ← skipDigits cs
  if cs.head? == some '0' && (cs.drop 1).head?.any Text.isDigit then .error .malformed
  else
    match rest with
    | '.' :: cs => skipExponent (← skipDigits cs)
    | rest => skipExponent rest

/-- The text after a value that has no parts. -/
def skipScalar : List Char → Except Fault (List Char)
  | 'n' :: cs => readWord ['u', 'l', 'l'] cs
  | 't' :: cs => readWord ['r', 'u', 'e'] cs
  | 'f' :: cs => readWord ['a', 'l', 's', 'e'] cs
  | '"' :: cs => skipChars cs
  | '-' :: cs => skipNumber cs
  | cs => skipNumber cs

/-! ## Nested values -/

/-- What is open: an array, or an object. -/
inductive Bracket where
  | square
  | curly
deriving DecidableEq, Repr

/-- What is expected next. -/
inductive Awaited where
  | value
  | key
  /-- The end of what has just been opened, or what stands in it. -/
  | inside
  /-- The end of what is open, or a comma. -/
  | next
deriving DecidableEq, Repr

namespace Bracket

def closing : Bracket → Char
  | square => ']'
  | curly => '}'

/-- What stands in the brackets. -/
def content : Bracket → Awaited
  | square => .value
  | curly => .key

end Bracket

/-- The text after all that is open is closed, the innermost bracket first. -/
def skip : Nat → Awaited → List Bracket → List Char → Except Fault (List Char)
  | 0, _, _, _ => .error .cutOff
  | _ + 1, .next, [], cs => .ok cs
  | fuel + 1, awaited, frames, cs =>
    match awaited, frames, skipGap cs with
    | _, _, [] => .error .cutOff
    | .value, frames, '[' :: cs => skip fuel .inside (.square :: frames) cs
    | .value, frames, '{' :: cs => skip fuel .inside (.curly :: frames) cs
    | .value, frames, cs =>
      match skipScalar cs with
      | .ok cs => skip fuel .next frames cs
      | .error f => .error f
    | .key, frames, '"' :: cs =>
      match (skipChars cs).map skipGap with
      | .ok (':' :: cs) => skip fuel .value frames cs
      | .ok [] => .error .cutOff
      | .ok _ => .error .malformed
      | .error f => .error f
    | .key, _, _ => .error .malformed
    | .inside, b :: frames, c :: cs =>
      if c == b.closing then skip fuel .next frames cs
      else skip fuel b.content (b :: frames) (c :: cs)
    | .next, b :: frames, c :: cs =>
      if c == ',' then skip fuel b.content (b :: frames) cs
      else if c == b.closing then skip fuel .next frames cs
      else .error .malformed
    | _, [], _ => .error .malformed

/-- Passes over what is left of some brackets. -/
def skipRest (awaited : Awaited) (frames : List Bracket) (cs : List Char) :
    Except Fault (List Char) := skip (2 * cs.length + 2) awaited frames cs

end ModuleSharing.Json
