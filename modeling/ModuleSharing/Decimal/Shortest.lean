import ModuleSharing.Text.Decimal

/-!
# Shortest decimals

A finite double is a whole number of units `2^q`.  Of all decimals that are nearer to it than to any
other double, `shortest` picks one with the fewest digits, and of those the nearest.
-/

namespace ModuleSharing.Decimal

/-- A positive rational number. -/
structure Ratio where
  num : Nat
  den : Nat

namespace Ratio

def scale (r : Ratio) (n : Nat) : Ratio := ⟨r.num * n, r.den⟩

def shrink (r : Ratio) (n : Nat) : Ratio := ⟨r.num, r.den * n⟩

/-- The number `r * 10^e`. -/
def shift (r : Ratio) (e : Int) : Ratio :=
  if e ≥ 0 then r.scale (Nat.pow 10 e.toNat) else r.shrink (Nat.pow 10 (-e).toNat)

def le (r s : Ratio) : Bool := r.num * s.den ≤ s.num * r.den

def lt (r s : Ratio) : Bool := r.num * s.den < s.num * r.den

end Ratio

/-- The number `m * 2^q`. -/
def binary (m : Nat) (q : Int) : Ratio :=
  if q ≥ 0 then ⟨m * Nat.pow 2 q.toNat, 1⟩ else ⟨m, Nat.pow 2 (-q).toNat⟩

/-- The decimals that read back as one double. -/
structure Rounding where
  value : Ratio
  low : Ratio
  high : Ratio
  closed : Bool

namespace Rounding

def contains (i : Rounding) (x : Ratio) : Bool :=
  if i.closed then i.low.le x && x.le i.high else i.low.lt x && x.lt i.high

/-- The interval around `m * 2^q`. Below a power of two the next double is half as far away. -/
def around (m : Nat) (q : Int) (narrow : Bool) : Rounding where
  value := binary (4 * m) (q - 2)
  low := binary (4 * m - if narrow then 1 else 2) (q - 2)
  high := binary (4 * m + 2) (q - 2)
  closed := m % 2 == 0

end Rounding

/-- The digits of a decimal as one number, and its exponent of ten. -/
structure Digits where
  digits : Nat
  exponent : Int
deriving DecidableEq, Repr

/-- The power of ten just above `r`: the least `k` in the search with `r < 10^k`. -/
def magnitude (r : Ratio) : Nat → Int → Int
  | 0, k => k
  | fuel + 1, k => if ((Ratio.mk 1 1).shift (k - 1)).le r then k else magnitude r fuel (k - 1)

/-- The nearer of the two neighbours of the value with `n` digits that read back, if one does. -/
def onGrid (i : Rounding) (k : Int) (n : Nat) : Option Digits :=
  let e := k - n
  let scaled := i.value.shift (-e)
  let low := scaled.num / scaled.den
  let candidate (d : Nat) : Ratio := (Ratio.mk d 1).shift e
  let lowFits := 0 < low && i.contains (candidate low)
  let highFits := i.contains (candidate (low + 1))
  let rest := 2 * (scaled.num % scaled.den)
  if lowFits && (!highFits || rest < scaled.den || (rest == scaled.den && low % 2 == 0)) then
    some ⟨low, e⟩
  else if highFits then some ⟨low + 1, e⟩
  else none

/-- Takes the final zeros into the exponent. -/
def Digits.strip : Nat → Digits → Digits
  | 0, d => d
  | fuel + 1, d =>
    if d.digits % 10 == 0 && d.digits != 0 then strip fuel ⟨d.digits / 10, d.exponent + 1⟩ else d

/-- The fewest digits that read back as `m * 2^q`. -/
def shortest (m : Nat) (q : Int) (narrow : Bool) : Digits :=
  let i := Rounding.around m q narrow
  let k := magnitude i.value 700 310
  let found := (List.range 17).findSome? fun n => onGrid i k (n + 1)
  Digits.strip 20 (found.getD ⟨0, 0⟩)

/-- The bits of a double: its sign, and its size as `m * 2^q`. -/
structure Parts where
  negative : Bool
  mantissa : Nat
  scale : Int
  /-- The mantissa is the least with its exponent, and not in the lowest range. -/
  narrow : Bool

def Parts.ofBits (bits : UInt64) : Parts :=
  let n := bits.toNat
  let fraction := n % Nat.pow 2 52
  let exponent := n / Nat.pow 2 52 % Nat.pow 2 11
  { negative := n / Nat.pow 2 63 == 1
    mantissa := if exponent == 0 then fraction else fraction + Nat.pow 2 52
    scale := ((if exponent == 0 then 1 else exponent : Nat) : Int) - 1075
    narrow := fraction == 0 && exponent > 1 }

/-- The shortest digits of a finite double other than zero. -/
def Parts.shortest (p : Parts) : Digits := Decimal.shortest p.mantissa p.scale p.narrow

/-- Where a decimal point is written in full: for magnitudes `10^k` with `low < k ≤ high`. -/
structure Layout where
  low : Int
  high : Int

/-- Digits with a point among them, a zero on each side of it where no digit stands. -/
def positional (ds : List Char) (exponent : Int) : List Char :=
  let point := ds.length + exponent
  if exponent ≥ 0 then ds ++ List.replicate exponent.toNat '0' ++ ['.', '0']
  else if point > 0 then ds.take point.toNat ++ '.' :: ds.drop point.toNat
  else '0' :: '.' :: List.replicate (-point).toNat '0' ++ ds

/-- One digit, the others after a point, and a signed exponent of ten. -/
def scientific (ds : List Char) (exponent : Int) : List Char :=
  let power := ds.length + exponent - 1
  let sign := if power < 0 then '-' else '+'
  (match ds with
    | [] => []
    | [d] => [d]
    | d :: rest => d :: '.' :: rest) ++ 'e' :: sign :: Text.numeral power.natAbs

/-- The text of a finite double. -/
def Layout.chars (l : Layout) (bits : UInt64) : List Char :=
  let p := Parts.ofBits bits
  let body :=
    if p.mantissa == 0 then ['0', '.', '0']
    else
      let d := p.shortest
      let ds := Text.numeral d.digits
      let point := ds.length + d.exponent
      if l.low < point ∧ point ≤ l.high then positional ds d.exponent
      else scientific ds d.exponent
  if p.negative then '-' :: body else body

end ModuleSharing.Decimal
