import ModuleSharing.Json.Decode
import ModuleSharing.Range.Parser

/-!
# Settings

An option that holds a version or a range, or is switched off with `false`, or is not given at all.
-/

namespace ModuleSharing

open Json

inductive Setting (α : Type) where
  | unset
  | disabled
  | value (a : α)
deriving DecidableEq, Repr

/-- The version a consumer asks for. -/
abbrev RequiredVersion := Setting VersionRange

/-- The version a provided module is registered with. -/
abbrev ProvidedVersion := Setting Version

namespace Setting

variable {α β : Type}

def isUnset : Setting α → Bool
  | unset => true
  | _ => false

def isDisabled : Setting α → Bool
  | disabled => true
  | _ => false

def value? : Setting α → Option α
  | value a => some a
  | _ => none

/-- The member of an object; none for an unset option. -/
def member (key : String) (text : α → String) : Setting α → List (String × Json)
  | unset => []
  | disabled => [(key, .bool false)]
  | value a => [(key, .string (text a))]

/-- The value as JSON, `null` when unset. -/
def toJson (text : α → String) : Setting α → Json
  | unset => .null
  | disabled => .bool false
  | value a => .string (text a)

end Setting

/-! ## A text or a flag -/

/-- A text or a flag, as options are written. -/
inductive TextOrFlag where
  | flag (b : Bool)
  | text (s : String)
deriving DecidableEq, Repr

namespace TextOrFlag

def isFalse : TextOrFlag → Bool
  | flag b => !b
  | text _ => false

def text? : TextOrFlag → Option String
  | flag _ => none
  | text s => some s

def decoder (name : String) : Decoder TextOrFlag :=
  .choice name [fun d => (Decoder.bool d).map flag, fun d => (Decoder.text d).map text]

end TextOrFlag

/-- Reads `null`, `false`, or a text that `parse` reads. -/
def Setting.decoder {α : Type} (parse : String → Except VersionError α) :
    Decoder (Setting α) := fun d => do
  match ← Decoder.nullable (TextOrFlag.decoder "Raw") d with
  | none => .ok .unset
  | some (.flag false) => .ok .disabled
  | some (.flag true) =>
    .error <| .mismatch <|
      "expected a version string or " ++ Text.ticked "false" ++ ", found " ++ Text.ticked "true"
  | some (.text s) =>
    match parse s with
    | .ok a => .ok (.value a)
    | .error e => .error (.mismatch e.message)

end ModuleSharing
