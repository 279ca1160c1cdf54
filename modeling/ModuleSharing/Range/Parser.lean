import ModuleSharing.Range.Basic
import ModuleSharing.Version.Parser

/-!
# Reading version ranges

```text
range   ::= set ( '||' set )*
set     ::= partial ' - ' partial | simple ( ' ' simple )* | ''
simple  ::= ( '^' | '~' | '~>' | '<' | '<=' | '>' | '>=' | '=' | 'v' )? partial
partial ::= xr ( '.' xr ( '.' xr pre? build? )? )?
xr      ::= 'x' | 'X' | '*' | number
```

An operator may stand apart from its version.  `VersionError` is the failure of either reader: the
text that was to be read and what is wrong with it.
-/

namespace ModuleSharing

/-- Why a text is not a version range. -/
inductive RangeFault where
  | missingVersion (token : List Char)
  | tooManyNumbers (version : List Char)
  | numberAfterWildcard (version : List Char)
  | notANumber (component : List Char)
  | prereleaseOfPartial (version : List Char)
  | prerelease (fault : VersionFault)
deriving DecidableEq, Repr

namespace RangeFault

private def tickedChars (cs : List Char) : String := Text.ticked (String.ofList cs)

def message : RangeFault → String
  | missingVersion t => "missing version after " ++ tickedChars t
  | tooManyNumbers s => "too many components in " ++ tickedChars s
  | numberAfterWildcard s => "number after wildcard in " ++ tickedChars s
  | notANumber c => tickedChars c ++ " is not a version component"
  | prereleaseOfPartial s => "prerelease on incomplete version " ++ tickedChars s
  | prerelease fault => fault.message

end RangeFault

namespace Partial

def isWildcard (cs : List Char) : Bool := cs = ['x'] || cs = ['X'] || cs = ['*']

/-- The numbers of dot-separated components; after a wildcard only wildcards may follow. -/
def readNumbers (whole : List Char) (wild : Bool) :
    List (List Char) → Except RangeFault (List (Option Nat))
  | [] => .ok []
  | c :: cs =>
    if isWildcard c then do .ok (none :: (← readNumbers whole true cs))
    else if wild then .error (.numberAfterWildcard whole)
    else
      match Text.word? c with
      | none => .error (.notANumber c)
      | some n => do .ok (some n :: (← readNumbers whole false cs))

/-- Cuts at the first hyphen. -/
def splitPrerelease (cs : List Char) : List Char × Option (List Char) :=
  match Text.cutAt ['-'] cs with
  | some (core, pre) => (core, some pre)
  | none => (cs, none)

/-- Leading `v` and `=` signs and build metadata are dropped. -/
def read (cs : List Char) : Except RangeFault Partial := do
  let whole := cs.dropWhile fun c => c == 'v' || c == '='
  let (core, preText) := splitPrerelease (whole.takeWhile (· != '+'))
  let components := core.splitOn '.'
  if components.length > 3 then .error (.tooManyNumbers whole)
  let numbers ← readNumbers whole false components
  let patch := numbers[2]?.join
  let pre ←
    match preText with
    | none => .ok []
    | some pre =>
      if patch.isNone then .error (.prereleaseOfPartial whole)
      else
        match Prerelease.read pre with
        | .ok p => .ok p
        | .error fault => .error (.prerelease fault)
  .ok { major := numbers[0]?.join, minor := numbers[1]?.join, patch, pre }

end Partial

namespace Comparator

/-- The signs a comparator may start with, a longer one before its beginning. -/
def signs : List (List Char × Operator) :=
  [(['~', '>'], .tilde), (['>', '='], .greaterEq), (['<', '='], .lessEq), (['>'], .greater),
    (['<'], .less), (['^'], .caret), (['~'], .tilde), (['='], .exact), (['v'], .exact)]

/-- The operator a token starts with, `exact` if it starts with none, and the rest. -/
def readSign (token : List Char) : Operator × List Char :=
  let split? := signs.findSome? fun (sign, op) => (Text.afterPrefix? sign token).map (op, ·)
  split?.getD (.exact, token)

def read (token : List Char) : Except RangeFault Comparator := do
  let (op, rest) := readSign token
  let rest := rest.dropWhile (· == 'v')
  if rest.isEmpty then .error (.missingVersion token)
  .ok ⟨op, ← Partial.read rest⟩

end Comparator

namespace ComparatorSet

/-- Whether a word is an operator without a version. -/
def isSign (word : List Char) : Bool := Comparator.signs.any fun (sign, _) => sign == word

/-- Joins an operator that stands alone to the word after it. -/
def joinSigns : List (List Char) → List (List Char)
  | [] => []
  | [word] => [word]
  | first :: second :: rest =>
    if isSign first then (first ++ second) :: joinSigns rest
    else first :: joinSigns (second :: rest)

/-- Reads one set, which has no blanks around it. -/
def read (cs : List Char) : Except RangeFault ComparatorSet :=
  if cs.isEmpty then .ok [.any]
  else
    match Text.cutAt [' ', '-', ' '] cs with
    | some (low, high) => do
      let low ← Partial.read (Text.trim low)
      let high ← Partial.read (Text.trim high)
      .ok [⟨.greaterEq, low⟩, ⟨.lessEq, high⟩]
    | none => (joinSigns (Text.words cs)).mapM Comparator.read

end ComparatorSet

namespace VersionRange

def read (cs : List Char) : Except RangeFault VersionRange := do
  .ok ⟨← (Text.splitBars cs).mapM fun piece => ComparatorSet.read (Text.trim piece)⟩

/-- Whether a text has the look of a range and not of a module request: its first character decides,
except that a wildcard has to stand alone. -/
def looksLikeOne (s : String) : Bool :=
  let cs := Text.trim s.toList
  Partial.isWildcard cs ||
    match cs with
    | [] => false
    | c :: _ => Text.isDigit c || ['^', '=', 'v', '<', '>', '~'].contains c

end VersionRange

/-- A text that is no version, or no version range, and why. -/
inductive VersionError where
  | version (input : String) (fault : VersionFault)
  | range (input : String) (fault : RangeFault)
deriving DecidableEq, Repr

namespace VersionError

def message : VersionError → String
  | version input fault => "invalid version " ++ Text.ticked input ++ ": " ++ fault.message
  | range input fault => "invalid version range " ++ Text.ticked input ++ ": " ++ fault.message

end VersionError

/-- Reads a version; blanks around it and one leading `v` or `=` are allowed. -/
def Version.parse (s : String) : Except VersionError Version :=
  (Version.readLoose s.toList).mapError (.version s)

def VersionRange.parse (s : String) : Except VersionError VersionRange :=
  (VersionRange.read s.toList).mapError (.range s)

end ModuleSharing
