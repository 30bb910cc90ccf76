set_option autoImplicit false

namespace Catalog

-- There are 2047 runs of `2 ^ 52` equally spaced magnitudes.
def Binary64.finiteCount : Nat := 2047 * Nat.pow 2 52

inductive Binary64 where
  | finite (negative : Bool) (rank : Nat) (rank_lt : rank < Binary64.finiteCount)
  | infinite (negative : Bool)
  | nan
deriving DecidableEq

namespace Binary64

-- In units of `2 ^ -1074`. The first two runs have spacing one, and each later run has twice the
-- spacing of the one before.
def units (rank : Nat) : Nat :=
  if rank < Nat.pow 2 52 then rank
  else (Nat.pow 2 52 + rank % Nat.pow 2 52) * Nat.pow 2 (rank / Nat.pow 2 52 - 1)

def unitsPerOne : Nat := Nat.pow 2 1074

def ofRank (negative : Bool) (rank : Nat) : Binary64 :=
  if h : rank < finiteCount then .finite negative rank h else .infinite negative

def zero : Binary64 := .finite false 0 (by decide)

-- The integer nearest to `num / den`; of two equally near ones the even one.
def roundDiv (num den : Nat) : Nat :=
  let q := num / den
  let r := num % den
  if 2 * r < den then q else if den < 2 * r then q + 1 else q + q % 2

-- Infinite from half a step above the largest finite number on.
def ofRatio (negative : Bool) (num den : Nat) : Binary64 :=
  let scaled := num * unitsPerOne
  let run := (scaled / den).log2 - 52
  ofRank negative (run * Nat.pow 2 52 + roundDiv scaled (den * Nat.pow 2 run))

def ofNat (n : Nat) : Binary64 :=
  ofRatio false n 1

def ofInt (n : Int) : Binary64 :=
  ofRatio (decide (n < 0)) n.natAbs 1

def isNan : Binary64 → Bool
  | .nan => true
  | _ => false

def isFinite : Binary64 → Bool
  | .finite .. => true
  | _ => false

def neg : Binary64 → Binary64
  | .finite negative rank h => .finite (!negative) rank h
  | .infinite negative => .infinite (!negative)
  | .nan => .nan

def isWhole : Binary64 → Bool
  | .finite _ rank _ => units rank % unitsPerOne == 0
  | _ => false

def place : Binary64 → Int
  | .finite negative rank _ => if negative then -(rank : Int) else rank
  | .infinite negative => if negative then -(finiteCount : Int) else finiteCount
  | .nan => 0

def lt (a b : Binary64) : Bool :=
  !a.isNan && !b.isNan && a.place < b.place

def le (a b : Binary64) : Bool :=
  !a.isNan && !b.isNan && a.place ≤ b.place

-- Negative zero stands right below zero, and what is not a number stands above all.
def totalPlace : Binary64 → Int
  | .finite negative rank _ => if negative then -(rank : Int) - 1 else rank
  | .infinite negative => if negative then -(finiteCount : Int) - 1 else finiteCount
  | .nan => finiteCount + 1

def magnitude : Binary64 → Option (Nat × Nat)
  | .finite _ rank _ => some (units rank, unitsPerOne)
  | _ => none

def isZero : Binary64 → Bool
  | .finite _ rank _ => rank == 0
  | _ => false

def scale (x : Binary64) (num den : Nat) : Binary64 :=
  match x with
  | .finite negative rank _ => ofRatio negative (units rank * num) (unitsPerOne * den)
  | other => other

end Binary64
end Catalog
