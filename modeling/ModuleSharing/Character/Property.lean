import ModuleSharing.Character.Age
import ModuleSharing.Character.Segment
import ModuleSharing.Text.Split

/-!
# Properties by name

What a class such as `\p{Letter}`, `\p{Greek}` or `\p{gc=Lu}` stands for: the characters with a
property, of a category or of a script, or those with a value of one of a few properties.
-/

namespace ModuleSharing.Character

/-- Properties that a character has or has not, by their names in small letters. -/
def propertySets : List (List String × CharSet) :=
  [(["ahex", "asciihexdigit"], asciiHexDigit), (["alpha", "alphabetic"], alphabetic),
    (["bidic", "bidicontrol"], bidiControl), (["bidim", "bidimirrored"], bidiMirrored),
    (["caseignorable", "ci"], caseIgnorable), (["cased"], cased),
    (["changeswhencasefolded", "cwcf"], changesWhenCasefolded),
    (["changeswhencasemapped", "cwcm"], changesWhenCasemapped),
    (["changeswhenlowercased", "cwl"], changesWhenLowercased),
    (["changeswhentitlecased", "cwt"], changesWhenTitlecased),
    (["changeswhenuppercased", "cwu"], changesWhenUppercased), (["dash"], dash),
    (["defaultignorablecodepoint", "di"], defaultIgnorable), (["dep", "deprecated"], deprecated),
    (["dia", "diacritic"], diacritic), (["emoji"], emoji),
    (["ecomp", "emojicomponent"], emojiComponent), (["emod", "emojimodifier"], emojiModifier),
    (["ebase", "emojimodifierbase"], emojiModifierBase),
    (["emojipresentation", "epres"], emojiPresentation),
    (["extendedpictographic", "extpict"], extendedPictographic), (["ext", "extender"], extender),
    (["graphemebase", "grbase"], graphemeBase), (["graphemeextend", "grext"], graphemeExtend),
    (["graphemelink", "grlink"], graphemeLink), (["hex", "hexdigit"], hexDigit),
    (["hyphen"], hyphen), (["idsb", "idsbinaryoperator"], idsBinaryOperator),
    (["idst", "idstrinaryoperator"], idsTrinaryOperator),
    (["idsu", "idsunaryoperator"], idsUnaryOperator),
    (["idcompatmathcontinue"], idCompatMathContinue), (["idcompatmathstart"], idCompatMathStart),
    (["idc", "idcontinue"], idContinue), (["ids", "idstart"], idStart),
    (["ideo", "ideographic"], ideographic), (["joinc", "joincontrol"], joinControl),
    (["loe", "logicalorderexception"], logicalOrderException), (["lower", "lowercase"], lowercase),
    (["math"], math), (["mcm", "modifiercombiningmark"], modifierCombiningMark),
    (["nchar", "noncharactercodepoint"], noncharacterCodePoint),
    (["oalpha", "otheralphabetic"], otherAlphabetic),
    (["odi", "otherdefaultignorablecodepoint"], otherDefaultIgnorableCodePoint),
    (["ogrext", "othergraphemeextend"], otherGraphemeExtend),
    (["oidc", "otheridcontinue"], otherIDContinue), (["oids", "otheridstart"], otherIDStart),
    (["olower", "otherlowercase"], otherLowercase), (["omath", "othermath"], otherMath),
    (["otheruppercase", "oupper"], otherUppercase), (["patsyn", "patternsyntax"], patternSyntax),
    (["patternwhitespace", "patws"], patternWhiteSpace),
    (["pcm", "prependedconcatenationmark"], prependedConcatenationMark),
    (["qmark", "quotationmark"], quotationMark), (["radical"], radical),
    (["regionalindicator", "ri"], regionalIndicator),
    (["sentenceterminal", "sterm"], sentenceTerminal), (["sd", "softdotted"], softDotted),
    (["term", "terminalpunctuation"], terminalPunctuation),
    (["uideo", "unifiedideograph"], unifiedIdeograph), (["upper", "uppercase"], uppercase),
    (["variationselector", "vs"], variationSelector),
    (["space", "whitespace", "wspace"], whiteSpace), (["xidc", "xidcontinue"], xidContinue),
    (["xids", "xidstart"], xidStart)]

/-- The set that has a name in a table. -/
def named? (name : String) (table : List (List String × CharSet)) : Option CharSet :=
  (table.find? fun row => row.1.contains name).map Prod.snd

/-- Categories, and all, all assigned and all ASCII characters. -/
def generalCategory? (name : String) : Option CharSet :=
  match name with
  | "any" => some .all
  | "assigned" => some (categories ["Cn"]).compl
  | "ascii" => some (.ofText "0-7F")
  | _ => category? name

/-- The set that one name stands for. -/
def simpleProperty? (name : String) : Option CharSet :=
  named? name propertySets <|> generalCategory? name <|> (scriptCode? name).map script

/-- The characters for which a property has a value. -/
def valuedProperty? (property value : String) : Option CharSet :=
  match property with
  | "gc" | "generalcategory" => generalCategory? value
  | "sc" | "script" => (scriptCode? value).map script
  | "scx" | "scriptextensions" => (scriptCode? value).map scriptExtensions
  | "age" => age? value
  | "gcb" | "graphemeclusterbreak" => named? value graphemeClasses
  | "wb" | "wordbreak" => named? value wordClasses
  | "sb" | "sentencebreak" => named? value sentenceClasses
  | _ => none

/-! ## Loose spelling -/

/-- A name without what does not count in it: case, blanks, hyphens, underscores, and `is` in front,
unless only `c` is left then. -/
def looseName (cs : List Char) : String :=
  let keep (cs : List Char) : List Char :=
    (cs.filter fun c => c.toNat < 128 && c != ' ' && c != '-' && c != '_').map Char.toLower
  match cs with
  | i :: s :: rest =>
    if i.toLower = 'i' ∧ s.toLower = 's' then
      if keep rest = ['c'] then "isc" else String.ofList (keep rest)
    else String.ofList (keep cs)
  | _ => String.ofList (keep cs)

/-- What a name in braces, or a property and its value, stands for: a set of characters, and whether
those outside it are meant. -/
def property? (cs : List Char) : Option (CharSet × Bool) :=
  let valued (property value : List Char) : Option CharSet :=
    valuedProperty? (looseName property) (looseName value)
  match Text.cutAt ['!', '='] cs with
  | some (property, value) => (valued property value).map (·, true)
  | none =>
    match Text.cutAt [':'] cs <|> Text.cutAt ['='] cs with
    | some (property, value) => (valued property value).map (·, false)
    | none => (simpleProperty? (looseName cs)).map (·, false)

end ModuleSharing.Character
