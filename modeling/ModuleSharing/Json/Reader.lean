import ModuleSharing.Json.Skip

/-!
# Reading JSON

`Json.Document.read` reads a text into a draft.  Arrays and objects may be nested 127 deep, but for
those that are only passed over.
-/

namespace ModuleSharing.Json

/-! ## Values -/

/-- How deep arrays and objects may be nested. -/
def maxDepth : Nat := 127

/-- The text after a value, `none` once a fault has stopped the reading. -/
abbrev Rest := Option (List Char)

private def stopped (f : Fault) : Draft × Rest := (.broken f.flaw, none)

/-- What is wrong for who reads a value, and where passing over it leads. -/
private def passed (f : Fault) (r : Except Fault (List Char)) : Flaw × Rest :=
  match r with
  | .ok rest => (⟨f, none⟩, some rest)
  | .error g => (⟨f, some g⟩, none)

/-- A value without parts that starts with `cs`. -/
private def scalar (cs : List Char) (r : Except Fault (Draft × List Char)) : Draft × Rest :=
  match r with
  | .ok (d, rest) => (d, some rest)
  | .error f => (passed f (skipScalar cs)).map .broken id

/-- A value that is nested too deep. -/
private def tooDeep (cs : List Char) : Draft × Rest :=
  (passed .malformed (skipRest .value [] cs)).map .broken id

def readScalar : List Char → Except Fault (Draft × List Char)
  | 'n' :: cs => (readWord ['u', 'l', 'l'] cs).map (.null, ·)
  | 't' :: cs => (readWord ['r', 'u', 'e'] cs).map (.bool true, ·)
  | 'f' :: cs => (readWord ['a', 'l', 's', 'e'] cs).map (.bool false, ·)
  | '"' :: cs => (readChars cs).map fun (s, rest) => (.string (String.ofList s), rest)
  | '-' :: cs => (readNumber true cs).map fun (n, rest) => (.number n, rest)
  | c :: cs =>
    if Text.isDigit c then (readNumber false (c :: cs)).map fun (n, rest) => (.number n, rest)
    else .error .malformed
  | [] => .error .cutOff

mutual

/-- Reads a value; `depth` levels of nesting are left, and `fuel` bounds the characters. -/
def readValue (fuel depth : Nat) (cs : List Char) : Draft × Rest :=
  match fuel with
  | 0 => stopped .cutOff
  | fuel + 1 =>
    match skipGap cs with
    | [] => stopped .cutOff
    | '[' :: cs =>
      if depth = 0 then tooDeep ('[' :: cs)
      else
        match skipGap cs with
        | ']' :: rest => (.array [] none, some rest)
        | cs =>
          let (items, flaw, rest) := readItems fuel (depth - 1) cs
          (.array items flaw, rest)
    | '{' :: cs =>
      if depth = 0 then tooDeep ('{' :: cs)
      else
        match skipGap cs with
        | '}' :: rest => (.object [] none, some rest)
        | cs =>
          let (members, flaw, rest) := readMembers fuel (depth - 1) cs
          (.object members flaw, rest)
    | cs => scalar cs (readScalar cs)

/-- Reads the items of an array from one that has to be there. -/
def readItems (fuel depth : Nat) (cs : List Char) : List Draft × Option Flaw × Rest :=
  match fuel with
  | 0 => ([], some Fault.cutOff.flaw, none)
  | fuel + 1 =>
    match skipGap cs with
    | [] => ([.broken Fault.cutOff.flaw], none, none)
    | ']' :: _ => ([], some Fault.malformed.flaw, none)
    | cs =>
      match readValue fuel depth cs with
      | (item, none) => ([item], none, none)
      | (item, some rest) =>
        match skipGap rest with
        | [] => ([item], some Fault.cutOff.flaw, none)
        | ']' :: rest => ([item], none, some rest)
        | ',' :: rest =>
          let (items, flaw, rest) := readItems fuel depth rest
          (item :: items, flaw, rest)
        | _ => ([item], some Fault.malformed.flaw, none)

/-- Reads the members of an object from one that has to be there. -/
def readMembers (fuel depth : Nat) (cs : List Char) :
    List (String × Draft) × Option Flaw × Rest :=
  match fuel with
  | 0 => ([], some Fault.cutOff.flaw, none)
  | fuel + 1 =>
    match skipGap cs with
    | [] => ([], some Fault.cutOff.flaw, none)
    | '"' :: cs =>
      match readChars cs with
      | .error f => ([], (passed f (skipRest .key [.curly] ('"' :: cs))).map some id)
      | .ok (key, rest) =>
        let key := String.ofList key
        match skipGap rest with
        | [] => ([(key, .broken Fault.cutOff.flaw)], none, none)
        | ':' :: rest =>
          match readValue fuel depth rest with
          | (value, none) => ([(key, value)], none, none)
          | (value, some rest) =>
            match skipGap rest with
            | [] => ([(key, value)], some Fault.cutOff.flaw, none)
            | '}' :: rest => ([(key, value)], none, some rest)
            | ',' :: rest =>
              let (members, flaw, rest) := readMembers fuel depth rest
              ((key, value) :: members, flaw, rest)
            | _ => ([(key, value)], some Fault.malformed.flaw, none)
        | _ => ([(key, .broken Fault.malformed.flaw)], none, none)
    | _ => ([], some Fault.malformed.flaw, none)

end

/-- Reads a whole text. -/
def Document.read (s : String) : Document :=
  let cs := s.toList
  let (root, rest) := readValue (2 * cs.length + 1) maxDepth cs
  { root, trailing := rest.any fun rest => !(skipGap rest).isEmpty }

end ModuleSharing.Json
