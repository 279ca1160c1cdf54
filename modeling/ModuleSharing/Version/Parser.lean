import ModuleSharing.Text.Blank
import ModuleSharing.Text.Split
import ModuleSharing.Text.Quoted
import ModuleSharing.Version.Basic

/-!
# Reading versions

`Version.parse` reads `MAJOR.MINOR.PATCH[-PRE][+BUILD]`, with blanks around it and one leading `v`
or `=`.  `Prerelease.read` reads a pre-release that stands alone.  A failure says what is wrong and
in which part.
-/

namespace ModuleSharing

/-- The part of a version that is being read. -/
inductive VersionPart where
  | major
  | minor
  | patch
  | prerelease
  | build
deriving DecidableEq, Repr

namespace VersionPart

def name : VersionPart → String
  | major => "major version number"
  | minor => "minor version number"
  | patch => "patch version number"
  | prerelease => "pre-release identifier"
  | build => "build metadata"

end VersionPart

/-- Why a text is not a version. -/
inductive VersionFault where
  | empty
  | unexpectedEnd (part : VersionPart)
  | unexpectedChar (part : VersionPart) (c : Char)
  | unexpectedAfter (part : VersionPart) (c : Char)
  | leadingZero (part : VersionPart)
  | overflow (part : VersionPart)
  | emptySegment (part : VersionPart)
  | illegalChar (part : VersionPart)
deriving DecidableEq, Repr

namespace VersionFault

def message : VersionFault → String
  | empty => "empty string, expected a semver version"
  | unexpectedEnd p => "unexpected end of input while parsing " ++ p.name
  | unexpectedChar p c =>
    "unexpected character " ++ Text.quotedChar c ++ " while parsing " ++ p.name
  | unexpectedAfter p c => "unexpected character " ++ Text.quotedChar c ++ " after " ++ p.name
  | leadingZero p => "invalid leading zero in " ++ p.name
  | overflow p => "value of " ++ p.name ++ " exceeds u64::MAX"
  | emptySegment p => "empty identifier segment in " ++ p.name
  | illegalChar p => "unexpected character in " ++ p.name

end VersionFault

namespace Version

/-! ## Parts -/

/-- A number without leading zeros, and what follows it. -/
def readNumber (part : VersionPart) (cs : List Char) : Except VersionFault (Nat × List Char) :=
  let digits := cs.takeWhile Text.isDigit
  let rest := cs.dropWhile Text.isDigit
  match digits, rest with
  | [], [] => .error (.unexpectedEnd part)
  | [], c :: _ => .error (.unexpectedChar part c)
  | d :: ds, rest =>
    if d == '0' && !ds.isEmpty then .error (.leadingZero part)
    else if Text.value (d :: ds) ≤ Text.maxWord then .ok (Text.value (d :: ds), rest)
    else .error (.overflow part)

/-- The dot after a number. -/
def readDot (part : VersionPart) : List Char → Except VersionFault (List Char)
  | [] => .error (.unexpectedEnd part)
  | c :: cs => if c = '.' then .ok cs else .error (.unexpectedAfter part c)

/-- ASCII letters, digits and the hyphen. -/
def isIdentifierChar (c : Char) : Bool := c.isAlphanum || c == '-'

/-- The characters of dot-separated identifiers at the start, and what follows them. -/
def identifierRun (cs : List Char) : List Char × List Char :=
  (cs.takeWhile fun c => isIdentifierChar c || c == '.',
    cs.dropWhile fun c => isIdentifierChar c || c == '.')

/-- One identifier of a pre-release; a number has no leading zero. -/
def readIdentifier (cs : List Char) : Except VersionFault Identifier :=
  if cs.isEmpty then .error (.emptySegment .prerelease)
  else if cs.all Text.isDigit then
    if cs.length > 1 && cs.head? == some '0' then .error (.leadingZero .prerelease)
    else .ok (.numeric (Text.value cs))
  else .ok (.textual cs)

/-- The identifiers of a run of identifier characters and dots, none for an empty run. -/
def readIdentifiers (run : List Char) : Except VersionFault Prerelease :=
  if run.isEmpty then .ok [] else (run.splitOn '.').mapM readIdentifier

/-- A run is build metadata if none of its segments is empty. -/
def readBuild (run : List Char) : Except VersionFault (List Char) :=
  if run.isEmpty || (run.splitOn '.').any List.isEmpty then .error (.emptySegment .build)
  else .ok run

/-- Reads `-PRE`, if there is one. -/
def readPrereleasePart : List Char → Except VersionFault (Prerelease × List Char)
  | '-' :: cs => do
    let (run, rest) := identifierRun cs
    let pre ← readIdentifiers run
    if pre.isEmpty then .error (.emptySegment .prerelease) else .ok (pre, rest)
  | cs => .ok ([], cs)

/-- Reads `+BUILD`, if there is one. -/
def readBuildPart : List Char → Except VersionFault (List Char × List Char)
  | '+' :: cs => do
    let (run, rest) := identifierRun cs
    .ok (← readBuild run, rest)
  | cs => .ok ([], cs)

/-- The last part that a version with these optional parts has. -/
def lastPart (hasPre hasBuild : Bool) : VersionPart :=
  if hasBuild then .build else if hasPre then .prerelease else .patch

/-! ## Whole versions -/

/-- Reads `MAJOR.MINOR.PATCH[-PRE][+BUILD]` and nothing more. -/
def read (cs : List Char) : Except VersionFault Version := do
  if cs.isEmpty then .error .empty
  let (major, cs) ← readNumber .major cs
  let cs ← readDot .major cs
  let (minor, cs) ← readNumber .minor cs
  let cs ← readDot .minor cs
  let (patch, cs) ← readNumber .patch cs
  let (pre, cs) ← readPrereleasePart cs
  let (build, cs) ← readBuildPart cs
  match cs with
  | [] => .ok { major, minor, patch, pre, build }
  | c :: _ => .error (.unexpectedAfter (lastPart (!pre.isEmpty) (!build.isEmpty)) c)

/-- Takes away one leading `v`, or else one leading `=`. -/
def dropMark : List Char → List Char
  | 'v' :: cs => cs
  | '=' :: cs => cs
  | cs => cs

/-- A version as people write it: blanks around it and one leading `v` or `=` are allowed. -/
def readLoose (cs : List Char) : Except VersionFault Version :=
  read (Text.trim (dropMark (Text.trim cs)))

end Version

namespace Prerelease

/-- Reads a pre-release that stands alone; it may be empty. -/
def read (cs : List Char) : Except VersionFault Prerelease := do
  let (run, rest) := Version.identifierRun cs
  let pre ← Version.readIdentifiers run
  if rest.isEmpty then .ok pre else .error (.illegalChar .prerelease)

end Prerelease

end ModuleSharing
