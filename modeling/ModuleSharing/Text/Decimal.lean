/-!
# Decimal numerals

Natural numbers as ASCII digits: `numeral` writes one without leading zeros, `value` reads any run
of digits.
-/

namespace ModuleSharing.Text

def isDigit (c : Char) : Bool := '0' ≤ c && c ≤ '9'

/-- The digits of `n`, most significant first. -/
def numeral (n : Nat) : List Char := Nat.toDigits 10 n

/-- The number a run of digits stands for. -/
def value (ds : List Char) : Nat := Nat.ofDigitChars 10 ds 0

/-- The largest number that fits in 64 bits. -/
def maxWord : Nat := Nat.pow 2 64 - 1

/-- A number written with digits only, leading zeros allowed, that fits in 64 bits. -/
def word? (cs : List Char) : Option Nat :=
  if cs.isEmpty || !cs.all isDigit then none
  else if value cs ≤ maxWord then some (value cs) else none

end ModuleSharing.Text
