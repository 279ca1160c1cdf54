import ModuleSharing.Share.Descriptor

/-!
# Options of share declarations

The records that stand for one declaration in the sections `consumes`, `provides` and `shared`, as
they are written, and what can be wrong with a section.
-/

namespace ModuleSharing

open Json Text

/-! ## What can be wrong -/

inductive ConfigError where
  | shape (section_ found : String)
  | entry (section_ key found : String)
  | options (section_ key reason : String)
  | version (key option : String) (error : VersionError)
  | flag (key option : String)
deriving DecidableEq, Repr

namespace ConfigError

def message : ConfigError → String
  | shape s found =>
    ticked s ++ " must be a string, a list of strings and maps, or a map, found " ++ found
  | entry s key found =>
    "entry " ++ ticked key ++ " in " ++ ticked s ++
      " must be a string or an options object, found " ++ found
  | options s key reason =>
    "invalid options for " ++ ticked key ++ " in " ++ ticked s ++ ": " ++ reason
  | version key option _ => "invalid " ++ ticked option ++ " for " ++ ticked key
  | flag key option =>
    ticked option ++ " for " ++ ticked key ++ " must be a string or " ++ ticked "false" ++
      ", found " ++ ticked "true"

def code : ConfigError → String
  | shape _ _ => "fedshare::config::shape"
  | entry _ _ _ => "fedshare::config::entry"
  | options _ _ _ => "fedshare::config::options"
  | version _ _ _ => "fedshare::config::version"
  | flag _ _ => "fedshare::config::flag"

def help? : ConfigError → Option String
  | shape _ _ =>
    some ("use " ++ ticked "\"react\"" ++ ", " ++ ticked "[\"react\", \"react-dom\"]" ++ ", or " ++
      ticked "\x7b \"react\": \x7b \"singleton\": true \x7d \x7d")
  | options _ _ _ => some "recognized options are listed in the federation config documentation"
  | _ => none

end ConfigError

/-- How a message about a section names a value. -/
def describe : Json → String
  | .null => "null"
  | .bool b => "boolean " ++ ticked (toString b)
  | .number n => "number " ++ ticked (String.ofList n.chars)
  | .string _ => "a string"
  | .array _ => "a list"
  | .object _ => "an object"

/-! ## Records -/

structure ConsumeOptions where
  import_ : Option TextOrFlag := none
  importResolved : Option String := none
  shareKey : Option String := none
  shareScope : Option ShareScope := none
  requiredVersion : Option TextOrFlag := none
  strictVersion : Option Bool := none
  singleton : Option Bool := none
  eager : Option Bool := none
  layer : Option String := none
  issuerLayer : Option String := none
  packageName : Option String := none
  request : Option String := none
  includes : Option ShareFilter := none
  excludes : Option ShareFilter := none
deriving DecidableEq, Repr

structure ProvideOptions where
  shareKey : Option String := none
  shareScope : Option ShareScope := none
  version : Option TextOrFlag := none
  requiredVersion : Option TextOrFlag := none
  strictVersion : Option Bool := none
  singleton : Option Bool := none
  eager : Option Bool := none
  layer : Option String := none
  request : Option String := none
  includes : Option ShareFilter := none
  excludes : Option ShareFilter := none
deriving DecidableEq, Repr

structure SharedOptions where
  import_ : Option TextOrFlag := none
  shareKey : Option String := none
  shareScope : Option ShareScope := none
  version : Option TextOrFlag := none
  requiredVersion : Option TextOrFlag := none
  strictVersion : Option Bool := none
  singleton : Option Bool := none
  eager : Option Bool := none
  layer : Option String := none
  issuerLayer : Option String := none
  packageName : Option String := none
  request : Option String := none
  includes : Option ShareFilter := none
  excludes : Option ShareFilter := none
deriving DecidableEq, Repr

private def textOrFlag : Decoder TextOrFlag := TextOrFlag.decoder "StringOrFalse"

def ConsumeOptions.record : Record ConsumeOptions :=
  ConsumeOptions.mk <$> .option "import" textOrFlag <*> .option "importResolved" .text
    <*> .option "shareKey" .text <*> .option "shareScope" ShareScope.decoder
    <*> .option "requiredVersion" textOrFlag <*> .option "strictVersion" .bool
    <*> .option "singleton" .bool <*> .option "eager" .bool <*> .option "layer" .text
    <*> .option "issuerLayer" .text <*> .option "packageName" .text <*> .option "request" .text
    <*> .option "include" ShareFilter.decoder <*> .option "exclude" ShareFilter.decoder

def ProvideOptions.record : Record ProvideOptions :=
  ProvideOptions.mk <$> .option "shareKey" .text <*> .option "shareScope" ShareScope.decoder
    <*> .option "version" textOrFlag <*> .option "requiredVersion" textOrFlag
    <*> .option "strictVersion" .bool <*> .option "singleton" .bool <*> .option "eager" .bool
    <*> .option "layer" .text <*> .option "request" .text
    <*> .option "include" ShareFilter.decoder <*> .option "exclude" ShareFilter.decoder

def SharedOptions.record : Record SharedOptions :=
  SharedOptions.mk <$> .option "import" textOrFlag <*> .option "shareKey" .text
    <*> .option "shareScope" ShareScope.decoder <*> .option "version" textOrFlag
    <*> .option "requiredVersion" textOrFlag <*> .option "strictVersion" .bool
    <*> .option "singleton" .bool <*> .option "eager" .bool <*> .option "layer" .text
    <*> .option "issuerLayer" .text <*> .option "packageName" .text <*> .option "request" .text
    <*> .option "include" ShareFilter.decoder <*> .option "exclude" ShareFilter.decoder

/-- Reads the options of the entry `key`. Options that do not exist are refused. -/
def readOptions {α : Type} (record : Record α) (section_ key : String)
    (members : List (String × Json)) : Except ConfigError α :=
  (decodeValue (record.decoder "" .refused) (.object members)).mapError fun e =>
    .options section_ key e.message

/-- An option that is a version or a range or `false`. -/
def readSetting {α : Type} (parse : String → Except VersionError α) (key option : String) :
    Option TextOrFlag → Except ConfigError (Setting α)
  | none => .ok .unset
  | some (.flag false) => .ok .disabled
  | some (.flag true) => .error (.flag key option)
  | some (.text s) =>
    match parse s with
    | .ok a => .ok (.value a)
    | .error e => .error (.version key option e)

end ModuleSharing
