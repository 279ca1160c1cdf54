import ModuleSharing.Json.Printer
import ModuleSharing.Json.Reader
import ModuleSharing.Text.Quoted

/-!
# Decoding JSON

A decoder looks through a draft in the order of its text and reports what it meets first: a fault of
the text, or a part that does not fit.  Decoders for records are built from one `Record` a field.
-/

namespace ModuleSharing.Json

/-- Why a draft does not hold what was expected. -/
inductive DecodeError where
  | fault (fault : Fault)
  | mismatch (message : String)
  /-- A wrong form that a text cannot go on after. -/
  | misshapen (message : String)
deriving DecidableEq, Repr

namespace DecodeError

def message : DecodeError → String
  | fault .malformed => "malformed text"
  | fault .cutOff => "text ends too early"
  | mismatch m => m
  | misshapen m => m

end DecodeError

abbrev Decoder (α : Type) := Draft → Except DecodeError α

open Text (ticked)

def Number.found : Number → String
  | .natural n => "integer " ++ ticked (String.ofList (Text.numeral n))
  | .negative n => "integer " ++ ticked (String.ofList ('-' :: Text.numeral n))
  | n => "floating point " ++ ticked (String.ofList n.chars)

/-- How a message names what was found. -/
def Draft.found : Draft → String
  | .broken _ => "nothing"
  | .null => "null"
  | .bool b => "boolean " ++ ticked (toString b)
  | .number n => n.found
  | .string s => "string " ++ Text.quoted s
  | .array _ _ => "sequence"
  | .object _ _ => "map"

/-- The report that something else was expected. -/
def Draft.unexpected {α : Type} (what : String) : Decoder α
  | .broken flaw => .error (.fault flaw.fault)
  | d => .error (.mismatch ("invalid type: " ++ d.found ++ ", expected " ++ what))

/-- Reports what is wrong, if anything is. -/
def unbroken (flaw : Option Flaw) : Except DecodeError Unit :=
  match flaw with
  | none => .ok ()
  | some flaw => .error (.fault flaw.fault)

namespace Decoder

variable {α : Type}

/-! ## Values -/

/-- Any value. -/
def any : Decoder Json := fun d => d.toJson.mapError .fault

/-- A value that is only passed over. -/
def ignored : Decoder Unit := fun d => d.pass.mapError .fault

def text : Decoder String
  | .string s => .ok s
  | d => d.unexpected "a string"

def bool : Decoder Bool
  | .bool b => .ok b
  | d => d.unexpected "a boolean"

/-- A natural number of 64 bits. -/
def natural : Decoder Nat
  | .number (.natural n) => .ok n
  | d => d.unexpected "u64"

/-- A value, or `null` for none. -/
def nullable (dec : Decoder α) : Decoder (Option α)
  | .null => .ok none
  | d => (dec d).map some

def list (dec : Decoder α) : Decoder (List α)
  | .array items flaw => do
    let xs ← items.mapM dec
    unbroken flaw
    .ok xs
  | d => d.unexpected "a sequence"

/-- The members of an object in the order of the text. -/
def members (dec : Decoder α) : Decoder (List (String × α))
  | .object members flaw => do
    let xs ← members.mapM fun (k, d) => do .ok (k, ← dec d)
    unbroken flaw
    .ok xs
  | d => d.unexpected "a map"

/-- An object as it stands. -/
def object : Decoder (List (String × Json)) := fun d => do
  .ok ((← members any d).foldl (fun known (k, v) => setMember k v known) [])

/-- The first of several forms that fits. -/
def choice (name : String) (forms : List (Decoder α)) : Decoder α := fun d => do
  let _ ← any d
  match forms.findSome? fun form => (form d).toOption with
  | some a => .ok a
  | none => .error (.mismatch ("data did not match any variant of untagged enum " ++ name))

end Decoder

/-! ## Names -/

/-- A list of names as a message offers them. -/
def offered (names : List String) : String :=
  match names with
  | [a] => ticked a
  | [a, b] => ticked a ++ " or " ++ ticked b
  | names => "one of " ++ ", ".intercalate (names.map ticked)

/-- One of several names. -/
def Decoder.variant {α : Type} (names : List (String × α)) : Decoder α
  | .string s =>
    match names.lookup s with
    | some a => .ok a
    | none =>
      .error <| .mismatch <|
        "unknown variant " ++ ticked s ++ ", expected " ++ offered (names.map Prod.fst)
  | d => d.unexpected "variant identifier"

/-- One of several names, given as a string or as the only key of an object. -/
def Decoder.name {α : Type} (names : List (String × α)) : Decoder α
  | .broken flaw => .error (.fault flaw.fault)
  | .string s => variant names (.string s)
  | .object ((s, d) :: rest) flaw =>
    let several := "invalid value: map, expected map with a single key"
    match variant names (.string s), d with
    | .ok a, .null =>
      if rest.isEmpty then (unbroken flaw).map fun _ => a else .error (.misshapen several)
    | .ok _, d => if rest.isEmpty then d.unexpected "unit" else .error (.mismatch several)
    | .error e, _ => .error (if rest.isEmpty then e else .mismatch several)
  | .object [] (some flaw) => .error (.fault flaw.fault)
  | .object [] none => .error (.misshapen "invalid value: map, expected map with a single key")
  | d => .error (.misshapen ("invalid type: " ++ d.found ++ ", expected string or map"))

/-! ## Records -/

/-- What holds when a record lacks a field. -/
inductive Absence where
  /-- The field has to be there. -/
  | required
  /-- A list of the fields cannot stop before it, an object can leave it out. -/
  | listed
  | allowed
deriving DecidableEq, Repr

/-- A field as a record's reader sees it. -/
structure Field where
  name : String
  absence : Absence
  check : Draft → Except DecodeError Unit

/-- The fields of a record, in order, and what is built from them. -/
structure Record (α : Type) where
  fields : List Field
  build : List (String × Draft) → Except DecodeError α

namespace Record

variable {α β : Type}

instance : Applicative Record where
  pure a := ⟨[], fun _ => .ok a⟩
  seq f x :=
    { fields := f.fields ++ (x ()).fields
      build := fun members => do
        let g ← f.build members
        let a ← (x ()).build members
        .ok (g a) }

private def field (name : String) (absence : Absence) (absent : Except DecodeError α)
    (dec : Decoder α) : Record α where
  fields := [⟨name, absence, fun d => (dec d).map fun _ => ()⟩]
  build := fun members =>
    match members.lookup name with
    | some d => dec d
    | none => absent

def missing (name : String) : DecodeError := .mismatch ("missing field " ++ ticked name)

def required (name : String) (dec : Decoder α) : Record α :=
  field name .required (.error (missing name)) dec

def defaulted (name : String) (default : α) (dec : Decoder α) : Record α :=
  field name .allowed (.ok default) dec

/-- A field that may be left out or `null`. -/
def optional (name : String) (dec : Decoder α) : Record (Option α) :=
  defaulted name none (.nullable dec)

/-- An optional field that has to be given if the record is written as a list. -/
def option (name : String) (dec : Decoder α) : Record (Option α) :=
  field name .listed (.ok none) (.nullable dec)

/-- What is done with fields that a record does not have, and with items after its last field. -/
inductive Extra where
  | refused
  /-- Such fields are passed over, such items are refused. -/
  | ignored
  /-- Both are passed over. -/
  | dropped
deriving DecidableEq, Repr

/-- Looks through the members of an object; `seen` are the fields before them. -/
def checkMembers (fields : List Field) (extra : Extra) (seen : List String) :
    List (String × Draft) → Except DecodeError Unit
  | [] => .ok ()
  | (k, d) :: rest =>
    match fields.find? fun f => f.name == k with
    | some f =>
      if seen.contains k then .error (.mismatch ("duplicate field " ++ ticked k))
      else do
        f.check d
        checkMembers fields extra (k :: seen) rest
    | none =>
      if extra = .refused then
        .error (.mismatch ("unknown field " ++ ticked k ++ ", expected " ++
          offered (fields.map Field.name)))
      else do
        Decoder.ignored d
        checkMembers fields extra seen rest

/-- Reports the first field that has to be in an object and is not. -/
def checkPresent (fields : List Field) (members : List (String × Draft)) :
    Except DecodeError Unit :=
  match fields.find? fun f => f.absence = .required && (members.lookup f.name).isNone with
  | some f => .error (missing f.name)
  | none => .ok ()

/-- Looks through a list of fields, of which `count` have been seen. -/
def checkItems (name : String) (extra : Extra) (total count : Nat) (flaw : Option Flaw) :
    List Field → List Draft → Except DecodeError Unit
  | [], [] => unbroken flaw
  | [], _ :: rest =>
    if extra = .dropped then unbroken flaw
    else
      .error (.misshapen ("invalid length " ++ toString (count + 1 + rest.length) ++
        ", expected fewer elements in array"))
  | f :: fields, [] => do
    unbroken flaw
    if f.absence = .allowed then checkItems name extra total (count + 1) flaw fields []
    else
      .error (.mismatch ("invalid length " ++ toString count ++ ", expected struct " ++ name ++
        " with " ++ toString total ++ " elements"))
  | f :: fields, d :: rest => do
    f.check d
    checkItems name extra total (count + 1) flaw fields rest

/-- A record written as an object. -/
def ofObject (r : Record α) (extra : Extra) (members : List (String × Draft))
    (flaw : Option Flaw) : Except DecodeError α := do
  checkMembers r.fields extra [] members
  unbroken flaw
  checkPresent r.fields members
  r.build members

/-- A record written as an object, or as a list of its fields in order. -/
def decoder (name : String) (r : Record α) (extra : Extra) : Decoder α
  | .object members flaw => r.ofObject extra members flaw
  | .array items flaw => do
    checkItems name extra r.fields.length 0 flaw r.fields items
    r.build ((r.fields.map Field.name).zip items)
  | d => d.unexpected ("struct " ++ name)

/-- A record written as an object only. -/
def objectDecoder (name : String) (r : Record α) (extra : Extra) : Decoder α
  | .object members flaw => r.ofObject extra members flaw
  | d => d.unexpected ("struct " ++ name)

end Record

/-! ## Tagged records -/

/-- Looks through the members of an object for the one that says how to decode the others. -/
def findTag {τ : Type} (key : String) (tag : Decoder τ) (found : Option τ) :
    List (String × Draft) → Except DecodeError (Option τ)
  | [] => .ok found
  | (k, d) :: rest =>
    if k == key then
      if found.isSome then .error (.mismatch ("duplicate field " ++ ticked k))
      else do findTag key tag (some (← tag d)) rest
    else do
      let _ ← Decoder.any d
      findTag key tag found rest

/-- Decodes what has been read to its end, so that no wrong form stops the reading. -/
def settledDecoder {α : Type} (dec : Decoder α) : Decoder α := fun d =>
  (dec d).mapError fun e =>
    match e with
    | .misshapen m => .mismatch m
    | e => e

/-- A record whose form depends on one of its members, or on the first item of a list. -/
def Decoder.tagged {τ α : Type} (key : String) (tag : Decoder τ) (content : τ → Decoder α) :
    Decoder α
  | .object members flaw => do
    let found ← findTag key tag none members
    unbroken flaw
    match found with
    | none => .error (Record.missing key)
    | some t => settledDecoder (content t) (.object (members.filter fun m => m.1 != key) none)
  | .array [] flaw => do
    unbroken flaw
    .error (Record.missing key)
  | .array (first :: items) flaw => do
    let t ← tag first
    let rest := Draft.array items flaw
    let _ ← Decoder.any rest
    settledDecoder (content t) rest
  | d => d.unexpected "a tagged record"

/-! ## Whole inputs -/

/-- Decodes a text. What follows the value is looked at last. -/
def decodeText {α : Type} (dec : Decoder α) (s : String) : Except DecodeError α := do
  let doc := Document.read s
  let a ← dec doc.root
  if doc.trailing then .error (.fault .malformed) else .ok a

/-- Decodes a value. -/
def decodeValue {α : Type} (dec : Decoder α) (j : Json) : Except DecodeError α := dec (.ofJson j)

end ModuleSharing.Json
