import Catalog.Numeric.Binary64

set_option autoImplicit false

namespace Catalog.Shortest

structure Decimal where
  digits : Nat
  exponent : Int
deriving DecidableEq, Repr

-- The reals that round to a rank, in units of `2 ^ -1075`. The ends belong to it when the rank is
-- even.
structure Neighbourhood where
  low : Nat
  value : Nat
  high : Nat
  closed : Bool

def neighbourhood (rank : Nat) : Neighbourhood where
  low := Binary64.units (rank - 1) + Binary64.units rank
  value := 2 * Binary64.units rank
  high := Binary64.units rank + Binary64.units (rank + 1)
  closed := rank % 2 == 0

-- Both sides of a comparison with `10 ^ exponent`, scaled to natural numbers: the first factor is
-- for the decimal, the second for what it is compared with.
def scales (exponent : Int) : Nat × Nat :=
  if exponent < 0 then (Nat.pow 2 1075, Nat.pow 10 exponent.natAbs)
  else (Nat.pow 2 1075 * Nat.pow 10 exponent.natAbs, 1)

def Neighbourhood.holds (n : Neighbourhood) (candidate : Nat) (exponent : Int) : Bool :=
  let (forDecimal, forValue) := scales exponent
  let x := candidate * forDecimal
  let low := n.low * forValue
  let high := n.high * forValue
  if n.closed then low ≤ x && x ≤ high else low < x && x < high

def leadingShift (value : Nat) (bound : Nat) : Nat :=
  ((List.range bound).find? fun k => Nat.pow 2 1075 ≤ value * Nat.pow 10 k).getD bound

def leadingExponent (value : Nat) : Int :=
  let whole := value / Nat.pow 2 1075
  if whole = 0 then -(leadingShift value 400 : Int) else ((Nat.toDigits 10 whole).length : Int) - 1

-- The member of the decimal grid `10 ^ exponent` that reads back, if one of the two neighbours of
-- the value on that grid does; the nearer one if both do.
def onGrid? (n : Neighbourhood) (exponent : Int) : Option Decimal :=
  let (forDecimal, forValue) := scales exponent
  let below := n.value * forValue / forDecimal
  let gapBelow := n.value * forValue - below * forDecimal
  let gapAbove := (below + 1) * forDecimal - n.value * forValue
  match n.holds below exponent, n.holds (below + 1) exponent with
  | true, false => some ⟨below, exponent⟩
  | false, true => some ⟨below + 1, exponent⟩
  | true, true =>
    if gapBelow < gapAbove || (gapBelow == gapAbove && below % 2 == 0) then some ⟨below, exponent⟩
    else some ⟨below + 1, exponent⟩
  | false, false => none

def stripZeros : Nat → Decimal → Decimal
  | 0, d => d
  | fuel + 1, d =>
    if d.digits ≠ 0 && d.digits % 10 == 0 then stripZeros fuel ⟨d.digits / 10, d.exponent + 1⟩
    else d

-- Seventeen digits are always enough.
def ofRank (rank : Nat) : Decimal :=
  let n := neighbourhood rank
  let lead := leadingExponent n.value
  let grids := (List.range 17).map fun (k : Nat) => lead - (k : Int)
  stripZeros 17 ((grids.findSome? (onGrid? n)).getD ⟨0, 0⟩)

end Catalog.Shortest
