import ModuleSharing.Json.Decode

/-!
# Share scopes

A declaration belongs to one share scope or to a list of them, of which the first is where loads
look.
-/

namespace ModuleSharing

open Json

/-- The scope of declarations that name none. -/
def defaultScopeName : String := "default"

inductive ShareScope where
  | single (name : String)
  | multiple (names : List String)
deriving DecidableEq, Repr

namespace ShareScope

def standard : ShareScope := single defaultScopeName

/-- The names in the order they are given. -/
def names : ShareScope → List String
  | single name => [name]
  | multiple names => names

/-- The scope that loads look in. -/
def primary : ShareScope → String
  | single name => name
  | multiple names => names.headD defaultScopeName

/-- All names in one text, as identifiers show them. -/
def joined (s : ShareScope) : String := "|".intercalate s.names

def toJson : ShareScope → Json
  | single name => .string name
  | multiple names => .ofStrings names

def decoder : Decoder ShareScope :=
  .choice "ShareScope"
    [fun d => (Decoder.text d).map single, fun d => (Decoder.list .text d).map multiple]

end ShareScope

end ModuleSharing
