import ModuleSharing.Text.Decimal

/-!
# Versions

A version has three numbers, a pre-release and build metadata.  `precedence` is the order in which
versions are preferred: numbers first, then the pre-release, where none at all is highest; build
metadata does not count.
-/

namespace ModuleSharing

/-- One dot-separated part of a pre-release. Digits alone stand for a number. -/
inductive Identifier where
  | numeric (number : Nat)
  | textual (chars : List Char)
deriving DecidableEq, Repr

namespace Identifier

def chars : Identifier → List Char
  | numeric n => Text.numeral n
  | textual cs => cs

/-- Numbers by value and before texts, texts by code point. -/
def order : Identifier → Identifier → Ordering
  | numeric m, numeric n => compare m n
  | numeric _, textual _ => .lt
  | textual _, numeric _ => .gt
  | textual s, textual t => compare s t

end Identifier

/-- The identifiers of a pre-release, none for a release. -/
abbrev Prerelease := List Identifier

namespace Prerelease

def chars (p : Prerelease) : List Char := ['.'].intercalate (p.map Identifier.chars)

/-- A release is above every pre-release; otherwise the first difference decides, and a beginning of
the other is below it. -/
def order : Prerelease → Prerelease → Ordering
  | [], [] => .eq
  | [], _ :: _ => .gt
  | _ :: _, [] => .lt
  | p :: ps, q :: qs => List.compareLex Identifier.order (p :: ps) (q :: qs)

end Prerelease

structure Version where
  major : Nat
  minor : Nat
  patch : Nat
  pre : Prerelease := []
  /-- Identifiers joined by dots, empty for none. -/
  build : List Char := []
deriving DecidableEq, Repr

namespace Version

/-- Which version is preferred; `.gt` when the first is. -/
def precedence (a b : Version) : Ordering :=
  (compare a.major b.major).then <| (compare a.minor b.minor).then <|
    (compare a.patch b.patch).then <| Prerelease.order a.pre b.pre

/-- Strictly higher precedence. -/
def isHigher (a b : Version) : Bool := precedence a b == .gt

/-- A sign and what it introduces, nothing when there is nothing. -/
def introduced (sign : Char) (cs : List Char) : List Char :=
  if cs.isEmpty then [] else sign :: cs

/-- The text `MAJOR.MINOR.PATCH[-PRE][+BUILD]`. -/
def chars (v : Version) : List Char :=
  Text.numeral v.major ++ '.' :: Text.numeral v.minor ++ '.' :: Text.numeral v.patch ++
    introduced '-' v.pre.chars ++ introduced '+' v.build

def text (v : Version) : String := String.ofList v.chars

end Version

end ModuleSharing
