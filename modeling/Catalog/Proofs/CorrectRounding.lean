import Catalog.Proofs.NearestNumber
import Mathlib.Algebra.Order.Field.Basic
import Mathlib.Data.Rat.Cast.Order
import Mathlib.Tactic.Linarith

set_option autoImplicit false

namespace Catalog.Binary64

section Spacing

variable {a d rank other run n : Nat}

theorem exists_run (rank : Nat) :
    ∃ run n, rank = run * 2 ^ 52 + n ∧ (run = 0 ∨ 2 ^ 52 ≤ n) ∧ n < 2 ^ 53 := by
  rcases Nat.lt_or_ge rank (2 ^ 53) with first | later
  · exact ⟨0, rank, by omega, .inl rfl, first⟩
  · exact ⟨rank / 2 ^ 52 - 1, rank % 2 ^ 52 + 2 ^ 52, by omega, .inr (by omega), by omega⟩

theorem units_strictMono : StrictMono units := by
  apply strictMono_nat_of_lt_succ
  intro rank
  obtain ⟨run, n, rfl, inside, below⟩ := exists_run rank
  have next : units (run * 2 ^ 52 + (n + 1)) = (n + 1) * 2 ^ run := by
    apply units_run _ below
    omega
  rw [units_run inside below.le, Nat.add_assoc, next]
  exact Nat.mul_lt_mul_of_pos_right (Nat.lt_succ_self n) (Nat.two_pow_pos run)

theorem spacing_above (inside : run = 0 ∨ 2 ^ 52 ≤ n) (atMost : n ≤ 2 ^ 53)
    (above : run * 2 ^ 52 + n < other) : (n + 1) * 2 ^ run ≤ units other := by
  refine Nat.le_trans ?_ (units_strictMono.monotone above)
  rcases Nat.eq_or_lt_of_le atMost with rfl | less
  · have place : run * 2 ^ 52 + 2 ^ 53 + 1 = (run + 1) * 2 ^ 52 + (2 ^ 52 + 1) := by ring
    rw [Nat.succ_eq_add_one, place, units_run (.inr (by omega)) (by omega), pow_succ]
    omega
  · rw [Nat.succ_eq_add_one, Nat.add_assoc, units_run (by omega) less]

theorem spacing_below (inside : run = 0 ∨ 2 ^ 52 < n) (atMost : n ≤ 2 ^ 53)
    (below : other < run * 2 ^ 52 + n) : units other + 2 ^ run ≤ n * 2 ^ run := by
  obtain ⟨k, rfl⟩ : ∃ k, n = k + 1 := ⟨n - 1, by omega⟩
  have previous : units (run * 2 ^ 52 + k) = k * 2 ^ run := by
    apply units_run _ (by omega)
    omega
  have ordered : units other ≤ units (run * 2 ^ 52 + k) :=
    units_strictMono.monotone (by omega)
  rw [Nat.succ_mul, ← previous]
  exact Nat.add_le_add_right ordered _

end Spacing

section Distances

variable {a d other num den : Nat}

-- How far `a / d` units are from the magnitude of a rank, in parts of `1 / d` units.
def distance (a d rank : Nat) : Nat := ((a : ℤ) - (units rank * d : Nat)).natAbs

theorem far_above (positive : 0 < d) (above : nearestRank a d < other) :
    units (nearestRank a d) * d + d * 2 ^ runOf a d ≤ units other * d := by
  have inside : runOf a d = 0 ∨ 2 ^ 52 ≤ roundDiv a (d * 2 ^ runOf a d) :=
    (Nat.eq_zero_or_pos _).imp_right (le_roundDiv_spacing positive)
  have spaced := spacing_above inside (roundDiv_spacing_le positive a) above
  rw [units_nearestRank positive]
  calc _ = (roundDiv a (d * 2 ^ runOf a d) + 1) * 2 ^ runOf a d * d := by ring
    _ ≤ units other * d := Nat.mul_le_mul_right d spaced

-- At the beginning of a run the spacing below is finer, but there the ratio is not below its rank.
theorem far_below (positive : 0 < d) (below : other < nearestRank a d) :
    units other * d + d * 2 ^ runOf a d ≤ units (nearestRank a d) * d ∨
      units (nearestRank a d) * d ≤ a ∧ units other * d < units (nearestRank a d) * d := by
  by_cases inside : runOf a d = 0 ∨ 2 ^ 52 < roundDiv a (d * 2 ^ runOf a d)
  · left
    have spaced := spacing_below inside (roundDiv_spacing_le positive a) below
    rw [units_nearestRank positive]
    calc _ = (units other + 2 ^ runOf a d) * d := by ring
      _ ≤ _ := Nat.mul_le_mul_right d spaced
  · right
    obtain ⟨spaced, first⟩ := not_or.mp inside
    refine ⟨?_, Nat.mul_lt_mul_of_pos_right (units_strictMono below) positive⟩
    rw [units_nearestRank positive]
    calc _ = roundDiv a (d * 2 ^ runOf a d) * (d * 2 ^ runOf a d) := by ring
      _ ≤ 2 ^ 52 * (d * 2 ^ runOf a d) := Nat.mul_le_mul_right _ (Nat.le_of_not_lt first)
      _ ≤ a := le_of_runOf_pos (Nat.pos_of_ne_zero spaced)

theorem distance_nearestRank (positive : 0 < d) (different : other ≠ nearestRank a d) :
    distance a d (nearestRank a d) ≤ distance a d other ∧
      (distance a d other = distance a d (nearestRank a d) → nearestRank a d % 2 = 0) := by
  have near := nearQuotient_roundDiv (spacing_pos positive a) (a := a)
  have own : units (nearestRank a d) * d =
      roundDiv a (d * 2 ^ runOf a d) * (d * 2 ^ runOf a d) := by
    rw [units_nearestRank positive]
    ring
  have parity : nearestRank a d = runOf a d * 2 ^ 52 + roundDiv a (d * 2 ^ runOf a d) := rfl
  have low := near.low
  have high := near.high
  have even := near.even
  rw [← own] at low high even
  have spaced := spacing_pos positive a
  unfold distance
  rcases Nat.lt_or_gt_of_ne different with below | above
  · have far := far_below positive below
    generalize units (nearestRank a d) * d = nearest at *
    omega
  · have far := far_above positive above
    generalize units (nearestRank a d) * d = nearest at *
    omega

end Distances

section Magnitudes

variable {v : ℚ} {rank other num den : Nat}

-- Ranks that no finite number has go on in the same way, as if exponents had no bound.
def rankValue (rank : Nat) : ℚ := units rank / unitsPerOne

-- No other rank is nearer, and one as near only if this one is even.
structure RoundsTo (v : ℚ) (rank : Nat) : Prop where
  nearest : ∀ other, |v - rankValue rank| ≤ |v - rankValue other|
  even : ∀ other, other ≠ rank → |v - rankValue other| = |v - rankValue rank| → rank % 2 = 0

theorem abs_sub_rankValue (positive : 0 < den) (num rank : Nat) :
    |(num / den : ℚ) - rankValue rank| =
      distance (num * unitsPerOne) den rank / (den * unitsPerOne) := by
  have parts : (0 : ℚ) < den := by exact_mod_cast positive
  have one : (0 : ℚ) < unitsPerOne := by exact_mod_cast unitsPerOne_pos
  have difference : (num / den : ℚ) - rankValue rank =
      (((num * unitsPerOne : Nat) : ℤ) - (units rank * den : Nat) : ℤ) / (den * unitsPerOne) := by
    rw [rankValue, div_sub_div _ _ parts.ne' one.ne', mul_comm (den : ℚ) (units rank : ℚ)]
    push_cast
    rfl
  rw [difference, abs_div, abs_of_pos (mul_pos parts one), distance, Nat.cast_natAbs, Int.cast_abs]

theorem roundsTo_nearestRank (positive : 0 < den) (num : Nat) :
    RoundsTo (num / den) (nearestRank (num * unitsPerOne) den) := by
  have scale : (0 : ℚ) < den * unitsPerOne := by
    exact_mod_cast Nat.mul_pos positive unitsPerOne_pos
  refine ⟨?_, ?_⟩
  · intro other
    rcases eq_or_ne other (nearestRank (num * unitsPerOne) den) with rfl | different
    · exact le_rfl
    · rw [abs_sub_rankValue positive, abs_sub_rankValue positive, div_le_div_iff_of_pos_right scale]
      exact_mod_cast (distance_nearestRank positive different).1
  · intro other different same
    rw [abs_sub_rankValue positive, abs_sub_rankValue positive, div_left_inj' scale.ne'] at same
    exact (distance_nearestRank positive different).2 (by exact_mod_cast same)

theorem rankValue_strictMono : StrictMono rankValue := by
  have one : (0 : ℚ) < unitsPerOne := by exact_mod_cast unitsPerOne_pos
  intro rank other less
  unfold rankValue
  rw [div_lt_div_iff_of_pos_right one]
  exact_mod_cast units_strictMono less

-- Two even ranks have another one between them, which is nearer to the middle.
theorem RoundsTo.unique (left : RoundsTo v rank) (right : RoundsTo v other) : rank = other := by
  by_contra different
  wlog less : rank < other generalizing rank other
  · exact this right left (Ne.symm different) (by omega)
  have same := le_antisymm (left.nearest other) (right.nearest rank)
  have even := left.even other (Ne.symm different) same.symm
  have even' := right.even rank different same
  have low := rankValue_strictMono (Nat.lt_succ_self rank)
  have high := rankValue_strictMono (show rank + 1 < other by omega)
  have middle : v - rankValue rank = rankValue other - v := by
    rcases abs_eq_abs.mp same with equal | opposite <;> linarith
  have nearer : |v - rankValue (rank + 1)| < |v - rankValue rank| := by
    rw [abs_of_pos (show 0 < v - rankValue rank by linarith), abs_lt]
    constructor <;> linarith
  exact absurd (left.nearest (rank + 1)) (not_le.mpr nearer)

theorem RoundsTo.two_mul_le {r : Nat} (rounds : RoundsTo v rank) (atMost : rank ≤ r) :
    2 * v ≤ rankValue r + rankValue (r + 1) := by
  by_contra beyond
  have ordered := rankValue_strictMono.monotone atMost
  have step := rankValue_strictMono (Nat.lt_succ_self r)
  have near := rounds.nearest (r + 1)
  rw [abs_of_pos (show 0 < v - rankValue rank by linarith)] at near
  rcases abs_cases (v - rankValue (r + 1)) with ⟨side, _⟩ | ⟨side, _⟩ <;> linarith

theorem RoundsTo.le_two_mul {r : Nat} (rounds : RoundsTo v rank) (atLeast : r < rank) :
    rankValue r + rankValue (r + 1) ≤ 2 * v := by
  by_contra beyond
  have ordered := rankValue_strictMono.monotone (Nat.succ_le_of_lt atLeast)
  have step := rankValue_strictMono (Nat.lt_succ_self r)
  have near := rounds.nearest r
  rw [abs_sub_comm, abs_of_pos (show 0 < rankValue rank - v by linarith)] at near
  rcases abs_cases (v - rankValue r) with ⟨side, _⟩ | ⟨side, _⟩ <;> linarith

theorem RoundsTo.even_of_middle {r : Nat} (rounds : RoundsTo v rank) (atMost : rank ≤ r)
    (middle : 2 * v = rankValue r + rankValue (r + 1)) : r % 2 = 0 := by
  have ordered := rankValue_strictMono.monotone atMost
  have step := rankValue_strictMono (Nat.lt_succ_self r)
  have own : |v - rankValue rank| = v - rankValue rank := abs_of_pos (by linarith)
  have next : |v - rankValue (r + 1)| = rankValue (r + 1) - v := by
    rw [abs_sub_comm]
    exact abs_of_pos (by linarith)
  have near := rounds.nearest (r + 1)
  rw [own, next] at near
  obtain rfl : rank = r := rankValue_strictMono.injective (by linarith)
  exact rounds.even (rank + 1) (Nat.succ_ne_self rank) (by rw [own, next]; linarith)

-- In the middle between the largest finite number and the next magnitude.
def overflowBound : ℚ := 2 ^ 1024 - 2 ^ 970

theorem rankValue_around_overflowBound :
    rankValue (finiteCount - 1) + rankValue (finiteCount - 1 + 1) = 2 * overflowBound := by
  decide +kernel

theorem RoundsTo.lt_finiteCount_iff (rounds : RoundsTo v rank) :
    rank < finiteCount ↔ v < overflowBound := by
  have around := rankValue_around_overflowBound
  constructor
  · intro finite
    have atMost : rank ≤ finiteCount - 1 := Nat.le_sub_one_of_lt finite
    have most := rounds.two_mul_le atMost
    refine lt_of_le_of_ne (by linarith) ?_
    intro middle
    exact absurd (rounds.even_of_middle atMost (by linarith)) (by decide)
  · intro below
    by_contra infinite
    have last : finiteCount - 1 < finiteCount := by decide
    have least := rounds.le_two_mul (last.trans_le (Nat.le_of_not_lt infinite))
    linarith

end Magnitudes

section Rounded

variable {x y : Binary64} {v : ℚ} {den : Nat}

def CorrectlyRounded (x : Binary64) (v : ℚ) : Prop :=
  ∃ rank, RoundsTo v rank ∧ x = ofRank false rank

theorem isFinite_ofRank_iff (negative : Bool) (rank : Nat) :
    (ofRank negative rank).isFinite = true ↔ rank < finiteCount := by
  unfold ofRank
  split
  next finite => exact iff_of_true rfl finite
  next infinite => exact iff_of_false (by simp [isFinite]) infinite

theorem correctlyRounded_ofRatio (positive : 0 < den) (num : Nat) :
    (ofRatio false num den).CorrectlyRounded (num / den) :=
  ⟨_, roundsTo_nearestRank positive num, ofRatio_eq false num den⟩

theorem CorrectlyRounded.unique (left : x.CorrectlyRounded v) (right : y.CorrectlyRounded v) :
    x = y := by
  obtain ⟨rank, rounds, rfl⟩ := left
  obtain ⟨other, rounds', rfl⟩ := right
  rw [rounds.unique rounds']

theorem CorrectlyRounded.isFinite_iff (rounded : x.CorrectlyRounded v) :
    x.isFinite = true ↔ v < overflowBound := by
  obtain ⟨rank, rounds, rfl⟩ := rounded
  rw [isFinite_ofRank_iff, rounds.lt_finiteCount_iff]

end Rounded

end Catalog.Binary64
