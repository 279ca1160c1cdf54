import ModuleSharing.Json.Decode

/-!
# Build modes

A build is interactive, or made once for production.
-/

namespace ModuleSharing

inductive BuildMode where
  | development
  | production
deriving DecidableEq, Repr

namespace BuildMode

def name : BuildMode → String
  | development => "development"
  | production => "production"

/-- Every spelling of a mode. -/
def spellings : List (String × BuildMode) :=
  [("development", development), ("dev", development), ("production", production),
    ("prod", production)]

def ofName? (s : String) : Option BuildMode := spellings.lookup s

/-- The message about a text that spells no mode. -/
def unknown (s : String) : String :=
  "unknown build mode " ++ Text.ticked s ++ " (expected development or production)"

def isDevelopment : BuildMode → Bool
  | development => true
  | production => false

def decoder : Json.Decoder BuildMode :=
  .name [(development.name, development), (production.name, production)]

end BuildMode

end ModuleSharing
