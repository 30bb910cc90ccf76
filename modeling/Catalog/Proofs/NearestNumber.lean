import Catalog.Numeric.Binary64
import Mathlib.Data.Nat.Log
import Mathlib.Tactic.Ring

set_option autoImplicit false

namespace Catalog.Binary64

section Quotients

variable {a b d e n : Nat}

-- The rounded quotient is off by half a divisor at most, and by as much only where it is even.
structure NearQuotient (a d n : Nat) : Prop where
  low : 2 * (n * d) ≤ 2 * a + d
  high : 2 * a ≤ 2 * (n * d) + d
  even : 2 * (n * d) = 2 * a + d ∨ 2 * a = 2 * (n * d) + d → n % 2 = 0

theorem nearQuotient_roundDiv (positive : 0 < d) : NearQuotient a d (roundDiv a d) := by
  have whole : a / d * d + a % d = a := Nat.div_add_mod' a d
  have next : (a / d + 1) * d = a / d * d + d := Nat.succ_mul _ _
  have rest : a % d < d := Nat.mod_lt a positive
  unfold roundDiv
  dsimp only
  split
  next => exact ⟨by omega, by omega, by omega⟩
  next =>
    split
    next => exact ⟨by omega, by omega, by omega⟩
    next =>
      rcases Nat.mod_two_eq_zero_or_one (a / d) with even | odd
      · rw [even, Nat.add_zero]
        exact ⟨by omega, by omega, fun _ => even⟩
      · rw [odd]
        exact ⟨by omega, by omega, by omega⟩

-- Where the larger quotient came out smaller, both would be off by half of their divisors, next to
-- each other, and so both even.
theorem roundDiv_mono (positive : 0 < d) (positive' : 0 < e) (less : a * e ≤ b * d) :
    roundDiv a d ≤ roundDiv b e := by
  have near := nearQuotient_roundDiv (a := a) positive
  have near' := nearQuotient_roundDiv (a := b) positive'
  generalize roundDiv a d = m at near ⊢
  generalize roundDiv b e = n at near' ⊢
  by_contra more
  have step : (n + 1) * (d * e) ≤ m * (d * e) := Nat.mul_le_mul_right _ (Nat.lt_of_not_le more)
  have low := Nat.mul_le_mul_right e near.low
  have high := Nat.mul_le_mul_right d near'.high
  have left : (2 * (m * d)) * e = 2 * (m * (d * e)) := by ring
  have left' : (2 * a + d) * e = 2 * (a * e) + d * e := by ring
  have right : (2 * b) * d = 2 * (b * d) := by ring
  have right' : (2 * (n * e) + e) * d = 2 * (n * (d * e)) + d * e := by ring
  have next : (n + 1) * (d * e) = n * (d * e) + d * e := by ring
  have tight : m * (d * e) = (n + 1) * (d * e) := by omega
  have adjacent : m = n + 1 := Nat.eq_of_mul_eq_mul_right (Nat.mul_pos positive positive') tight
  have even : m % 2 = 0 := by
    apply near.even
    left
    exact Nat.eq_of_mul_eq_mul_right positive' (by omega)
  have even' : n % 2 = 0 := by
    apply near'.even
    right
    exact Nat.eq_of_mul_eq_mul_right positive (by omega)
  omega

theorem roundDiv_one (n : Nat) : roundDiv n 1 = n := by
  simp [roundDiv, Nat.mod_one]

theorem roundDiv_le (positive : 0 < d) (most : a ≤ n * d) : roundDiv a d ≤ n := by
  rw [← roundDiv_one n]
  exact roundDiv_mono positive Nat.one_pos (by rwa [Nat.mul_one])

theorem le_roundDiv (positive : 0 < d) (least : n * d ≤ a) : n ≤ roundDiv a d := by
  rw [← roundDiv_one n]
  exact roundDiv_mono Nat.one_pos positive (by rwa [Nat.mul_one])

theorem roundDiv_mul (positive : 0 < d) (n : Nat) : roundDiv (n * d) d = n :=
  Nat.le_antisymm (roundDiv_le positive le_rfl) (le_roundDiv positive le_rfl)

end Quotients

section Ranks

variable {a b d e : Nat}

def runOf (a d : Nat) : Nat := (a / d).log2 - 52

-- The rank of the magnitude nearest to `a / d` units, if ranks went on without end.
def nearestRank (a d : Nat) : Nat :=
  runOf a d * 2 ^ 52 + roundDiv a (d * 2 ^ runOf a d)

theorem ofRatio_eq (negative : Bool) (num den : Nat) :
    ofRatio negative num den = ofRank negative (nearestRank (num * unitsPerOne) den) := rfl

theorem spacing_pos (positive : 0 < d) (a : Nat) : 0 < d * 2 ^ runOf a d :=
  Nat.mul_pos positive (Nat.two_pow_pos _)

theorem lt_of_runOf (positive : 0 < d) (a : Nat) : a < 2 ^ 53 * (d * 2 ^ runOf a d) := by
  have quotient : a / d < 2 ^ (53 + runOf a d) :=
    Nat.lt_of_lt_of_le Nat.lt_log2_self (Nat.pow_le_pow_right (by decide) (by unfold runOf; omega))
  have bound := (Nat.div_lt_iff_lt_mul positive).mp quotient
  rw [pow_add] at bound
  calc a < 2 ^ 53 * 2 ^ runOf a d * d := bound
    _ = 2 ^ 53 * (d * 2 ^ runOf a d) := by ring

theorem le_of_runOf_pos (spaced : 0 < runOf a d) : 2 ^ 52 * (d * 2 ^ runOf a d) ≤ a := by
  have log : (a / d).log2 = 52 + runOf a d := by unfold runOf at spaced ⊢; omega
  have nonzero : a / d ≠ 0 := by
    intro zero
    simp [runOf, zero] at spaced
  have power := Nat.log2_self_le nonzero
  rw [log, pow_add] at power
  calc 2 ^ 52 * (d * 2 ^ runOf a d) = 2 ^ 52 * 2 ^ runOf a d * d := by ring
    _ ≤ a / d * d := Nat.mul_le_mul_right d power
    _ ≤ a := Nat.div_mul_le_self a d

theorem roundDiv_spacing_le (positive : 0 < d) (a : Nat) :
    roundDiv a (d * 2 ^ runOf a d) ≤ 2 ^ 53 :=
  roundDiv_le (spacing_pos positive a) (lt_of_runOf positive a).le

theorem le_roundDiv_spacing (positive : 0 < d) (spaced : 0 < runOf a d) :
    2 ^ 52 ≤ roundDiv a (d * 2 ^ runOf a d) :=
  le_roundDiv (spacing_pos positive a) (le_of_runOf_pos spaced)

theorem nearestRank_mono (positive : 0 < d) (positive' : 0 < e) (less : a * e ≤ b * d) :
    nearestRank a d ≤ nearestRank b e := by
  have quotients : a / d ≤ b / e := by
    rw [Nat.le_div_iff_mul_le positive']
    apply Nat.le_of_mul_le_mul_right _ positive
    calc a / d * e * d = a / d * d * e := by ring
      _ ≤ a * e := Nat.mul_le_mul_right e (Nat.div_mul_le_self a d)
      _ ≤ b * d := less
  have runs : runOf a d ≤ runOf b e := by
    apply Nat.sub_le_sub_right
    rw [Nat.log2_eq_log_two, Nat.log2_eq_log_two]
    exact Nat.log_mono_right quotients
  rcases Nat.eq_or_lt_of_le runs with same | apart
  · unfold nearestRank
    rw [same]
    apply Nat.add_le_add_left
    have power : 0 < 2 ^ runOf b e := Nat.two_pow_pos _
    apply roundDiv_mono (Nat.mul_pos positive power) (Nat.mul_pos positive' power)
    calc a * (e * 2 ^ runOf b e) = a * e * 2 ^ runOf b e := by ring
      _ ≤ b * d * 2 ^ runOf b e := Nat.mul_le_mul_right _ less
      _ = b * (d * 2 ^ runOf b e) := by ring
  -- a run ends where the next one begins
  · have last := roundDiv_spacing_le positive a
    have first := le_roundDiv_spacing positive' (a := b) (by omega)
    unfold nearestRank
    omega

theorem units_run {run n : Nat} (inside : run = 0 ∨ 2 ^ 52 ≤ n) (atMost : n ≤ 2 ^ 53) :
    units (run * 2 ^ 52 + n) = n * 2 ^ run := by
  have spaces : Nat.pow 2 52 = 2 ^ 52 := rfl
  unfold units
  rw [spaces]
  split
  next first =>
    have finest : run = 0 := by omega
    simp [finest]
  next later =>
    rcases Nat.eq_or_lt_of_le atMost with rfl | less
    · have place : run * 2 ^ 52 + 2 ^ 53 = 2 ^ 52 * (run + 2) := by ring
      rw [place, Nat.mul_mod_right, Nat.mul_div_cancel_left _ (Nat.two_pow_pos 52)]
      change (2 ^ 52 + 0) * 2 ^ (run + 1) = 2 ^ 53 * 2 ^ run
      ring
    · have least : 2 ^ 52 ≤ n := by omega
      obtain ⟨k, rfl⟩ := Nat.exists_eq_add_of_le least
      have small : k < 2 ^ 52 := by omega
      have place : run * 2 ^ 52 + (2 ^ 52 + k) = 2 ^ 52 * (run + 1) + k := by ring
      rw [place, Nat.mul_add_mod, Nat.mod_eq_of_lt small, Nat.mul_add_div (Nat.two_pow_pos 52),
        Nat.div_eq_of_lt small]
      rfl

theorem units_nearestRank (positive : 0 < d) (a : Nat) :
    units (nearestRank a d) = roundDiv a (d * 2 ^ runOf a d) * 2 ^ runOf a d := by
  apply units_run _ (roundDiv_spacing_le positive a)
  rcases Nat.eq_zero_or_pos (runOf a d) with finest | spaced
  · exact .inl finest
  · exact .inr (le_roundDiv_spacing positive spaced)

theorem units_nearestRank_of_dvd (multiple : 2 ^ runOf a 1 ∣ a) : units (nearestRank a 1) = a := by
  obtain ⟨n, split⟩ := multiple
  have power : 0 < 2 ^ runOf a 1 := Nat.two_pow_pos _
  rw [units_nearestRank Nat.one_pos, Nat.one_mul]
  generalize 2 ^ runOf a 1 = spacing at split power
  rw [split, Nat.mul_comm spacing n, roundDiv_mul power]

end Ranks

section Integers

variable {m n : Nat}

def integerRank (n : Nat) : Nat := nearestRank (n * unitsPerOne) 1

theorem exists_unitsPerOne_eq : ∃ k, unitsPerOne = 2 ^ k := ⟨1074, by decide +kernel⟩

theorem unitsPerOne_pos : 0 < unitsPerOne := by decide +kernel

theorem integerRank_mono (less : m ≤ n) : integerRank m ≤ integerRank n := by
  apply nearestRank_mono Nat.one_pos Nat.one_pos
  exact Nat.mul_le_mul_right 1 (Nat.mul_le_mul_right unitsPerOne less)

theorem pow_runOf_dvd (atMost : n ≤ 2 ^ 53) (k : Nat) :
    2 ^ runOf (n * 2 ^ k) 1 ∣ n * 2 ^ k := by
  rcases Nat.eq_or_lt_of_le atMost with rfl | less
  · have run : runOf (2 ^ 53 * 2 ^ k) 1 = 53 + k - 52 := by
      rw [runOf, Nat.div_one, ← pow_add, Nat.log2_two_pow]
    rw [run, ← pow_add]
    exact pow_dvd_pow 2 (Nat.sub_le _ _)
  · apply Nat.dvd_mul_left_of_dvd
    apply pow_dvd_pow
    rw [runOf, Nat.div_one]
    rcases Nat.eq_zero_or_pos n with rfl | positive
    · simp
    · have large : n * 2 ^ k ≠ 0 := (Nat.mul_pos positive (Nat.two_pow_pos k)).ne'
      have below : n * 2 ^ k < 2 ^ (53 + k) := by
        rw [pow_add]
        exact Nat.mul_lt_mul_of_pos_right less (Nat.two_pow_pos k)
      have log := (Nat.log2_lt large).mpr below
      omega

theorem units_integerRank (atMost : n ≤ 2 ^ 53) : units (integerRank n) = n * unitsPerOne := by
  obtain ⟨k, power⟩ := exists_unitsPerOne_eq
  rw [integerRank, power]
  exact units_nearestRank_of_dvd (pow_runOf_dvd atMost k)

theorem integerRank_lt (small : m < 2 ^ 53) (less : m < n) : integerRank m < integerRank n := by
  apply Nat.lt_of_lt_of_le _ (integerRank_mono (Nat.succ_le_of_lt less))
  apply Nat.lt_of_le_of_ne (integerRank_mono (Nat.le_succ m))
  intro same
  have exact := units_integerRank small.le
  rw [same, units_integerRank small] at exact
  have equal := Nat.eq_of_mul_eq_mul_right unitsPerOne_pos exact
  omega

theorem integerRank_lt_finiteCount (small : n < 2 ^ 53) : integerRank n < finiteCount := by
  apply Nat.lt_of_le_of_lt (integerRank_mono small.le)
  decide +kernel

end Integers

section Places

variable {x y : Binary64} {m n : ℤ}

theorem place_ofRank (negative : Bool) (rank : Nat) :
    (ofRank negative rank).place =
      if negative then -((min rank finiteCount : Nat) : ℤ) else (min rank finiteCount : Nat) := by
  unfold ofRank
  split
  next finite => rw [Nat.min_eq_left finite.le]; rfl
  next beyond => rw [Nat.min_eq_right (Nat.le_of_not_lt beyond)]; rfl

theorem totalPlace_ofRank (negative : Bool) (rank : Nat) :
    (ofRank negative rank).totalPlace =
      if negative then (ofRank negative rank).place - 1 else (ofRank negative rank).place := by
  unfold ofRank
  split <;> cases negative <;> rfl

theorem isNan_ofRank (negative : Bool) (rank : Nat) : (ofRank negative rank).isNan = false := by
  unfold ofRank
  split <;> rfl

theorem totalPlace_inj (same : x.totalPlace = y.totalPlace) : x = y := by
  cases x <;> cases y <;> simp only [totalPlace] at same <;> grind

theorem ofInt_eq (n : ℤ) : ofInt n = ofRank (decide (n < 0)) (integerRank n.natAbs) := rfl

theorem place_ofInt (n : ℤ) :
    (ofInt n).place =
      if n < 0 then -((min (integerRank n.natAbs) finiteCount : Nat) : ℤ)
      else (min (integerRank n.natAbs) finiteCount : Nat) := by
  rw [ofInt_eq, place_ofRank]
  simp only [decide_eq_true_eq]

theorem place_ofInt_mono (less : m ≤ n) : (ofInt m).place ≤ (ofInt n).place := by
  rw [place_ofInt, place_ofInt]
  split
  next negative =>
    split
    next =>
      have ranks : integerRank n.natAbs ≤ integerRank m.natAbs := integerRank_mono (by omega)
      omega
    next => omega
  next =>
    have ranks : integerRank m.natAbs ≤ integerRank n.natAbs := integerRank_mono (by omega)
    rw [if_neg (by omega)]
    omega

theorem place_ofInt_lt (small : m.natAbs < 2 ^ 53 ∨ n.natAbs < 2 ^ 53) (less : m < n) :
    (ofInt m).place < (ofInt n).place := by
  rw [place_ofInt, place_ofInt]
  split
  next negative =>
    split
    next =>
      have near : n.natAbs < 2 ^ 53 := by omega
      have ranks : integerRank n.natAbs < integerRank m.natAbs :=
        integerRank_lt near (by omega)
      have finite := integerRank_lt_finiteCount near
      omega
    next =>
      have nonzero : integerRank 0 < integerRank m.natAbs :=
        integerRank_lt (by decide) (by omega)
      have some : 0 < finiteCount := by decide
      omega
  next =>
    have near : m.natAbs < 2 ^ 53 := by omega
    have ranks : integerRank m.natAbs < integerRank n.natAbs := integerRank_lt near (by omega)
    have finite := integerRank_lt_finiteCount near
    rw [if_neg (by omega)]
    omega

theorem place_ofInt_neg_iff : (ofInt n).place < 0 ↔ n < 0 := by
  have zero : (ofInt 0).place = 0 := by decide +kernel
  constructor
  · intro below
    by_contra least
    have above := place_ofInt_mono (Int.not_lt.mp least)
    omega
  · intro negative
    have below := place_ofInt_lt (.inr (by decide)) negative
    omega

theorem totalPlace_ofInt (n : ℤ) :
    (ofInt n).totalPlace =
      if (ofInt n).place < 0 then (ofInt n).place - 1 else (ofInt n).place := by
  rw [ofInt_eq, totalPlace_ofRank, ← ofInt_eq]
  simp only [decide_eq_true_eq, place_ofInt_neg_iff]

theorem totalPlace_ofInt_le_iff :
    (ofInt m).totalPlace ≤ (ofInt n).totalPlace ↔ (ofInt m).place ≤ (ofInt n).place := by
  rw [totalPlace_ofInt, totalPlace_ofInt]
  split <;> split <;> omega

theorem ofInt_eq_of_place_eq (same : (ofInt m).place = (ofInt n).place) : ofInt m = ofInt n := by
  apply totalPlace_inj
  rw [totalPlace_ofInt, totalPlace_ofInt, same]

structure Blurs (m n : ℤ) : Prop where
  distinct : m ≠ n
  rounded : ofInt m = ofInt n
  large : 2 ^ 53 ≤ m.natAbs ∧ 2 ^ 53 ≤ n.natAbs

theorem blurs_of_place_eq (distinct : m ≠ n) (same : (ofInt m).place = (ofInt n).place) :
    Blurs m n := by
  refine ⟨distinct, ofInt_eq_of_place_eq same, ?_⟩
  rw [← Nat.not_lt, ← Nat.not_lt, ← not_or]
  intro small
  rcases Int.lt_or_gt_of_ne distinct with less | more
  · exact absurd same (place_ofInt_lt small less).ne
  · exact absurd same (place_ofInt_lt small.symm more).ne'

theorem le_or_blurs_of_place_le (placed : (ofInt m).place ≤ (ofInt n).place) :
    m ≤ n ∨ Blurs m n := by
  rcases lt_or_ge n m with more | least
  · right
    exact blurs_of_place_eq more.ne' (Int.le_antisymm placed (place_ofInt_mono more.le))
  · exact .inl least

theorem le_ofInt_iff (sharp : ¬ Blurs m n) : (ofInt m).le (ofInt n) = true ↔ m ≤ n := by
  have number {k : ℤ} : (ofInt k).isNan = false := isNan_ofRank _ _
  simp only [le, number, Bool.not_false, Bool.true_and, decide_eq_true_eq]
  constructor
  · intro placed
    exact (le_or_blurs_of_place_le placed).resolve_right sharp
  · exact place_ofInt_mono

theorem Blurs.symm (blurs : Blurs m n) : Blurs n m :=
  ⟨blurs.distinct.symm, blurs.rounded.symm, blurs.large.symm⟩

theorem lt_ofInt_iff (sharp : ¬ Blurs m n) : (ofInt m).lt (ofInt n) = true ↔ m < n := by
  have number {k : ℤ} : (ofInt k).isNan = false := isNan_ofRank _ _
  have opposite := le_ofInt_iff fun blurs => sharp (Blurs.symm blurs)
  simp only [le, number, Bool.not_false, Bool.true_and, decide_eq_true_eq] at opposite
  simp only [lt, number, Bool.not_false, Bool.true_and, decide_eq_true_eq]
  rw [← Int.not_le, opposite, Int.not_le]

end Places

section Fractions

variable {num den : Nat}

theorem ofRatio_mul (positive : 0 < den) (n : Nat) :
    ofRatio false (n * den) den = ofInt n := by
  have ranks : nearestRank (n * den * unitsPerOne) den = integerRank n := by
    apply Nat.le_antisymm
    · apply nearestRank_mono positive Nat.one_pos
      exact Nat.le_of_eq (by ring)
    · apply nearestRank_mono Nat.one_pos positive
      exact Nat.le_of_eq (by ring)
  have natural : decide ((n : ℤ) < 0) = false := by simp
  rw [ofRatio_eq, ranks, ofInt_eq, natural, Int.natAbs_natCast]

-- Around a fraction that is rounded to another whole number, numbers are two units apart.
theorem two_units_le_spacing (positive : 0 < den) {count : Nat}
    (rounded : units (nearestRank (num * unitsPerOne) den) = count * unitsPerOne)
    (different : count * den ≠ num) :
    2 * unitsPerOne ≤ den * 2 ^ runOf (num * unitsPerOne) den := by
  have near := nearQuotient_roundDiv (spacing_pos positive (num * unitsPerOne))
    (a := num * unitsPerOne)
  rw [units_nearestRank positive] at rounded
  generalize runOf (num * unitsPerOne) den = run at rounded near ⊢
  generalize roundDiv (num * unitsPerOne) (den * 2 ^ run) = quotient at rounded near
  have value : quotient * (den * 2 ^ run) = count * den * unitsPerOne := by
    calc quotient * (den * 2 ^ run) = quotient * 2 ^ run * den := by ring
      _ = count * den * unitsPerOne := by rw [rounded]; ring
  have low := near.low
  have high := near.high
  rw [value] at low high
  generalize den * 2 ^ run = spacing at low high ⊢
  generalize count * den = whole at different low high
  rcases Nat.lt_or_gt_of_ne different with less | more
  · have step : (whole + 1) * unitsPerOne ≤ num * unitsPerOne := Nat.mul_le_mul_right _ less
    rw [Nat.succ_mul] at step
    omega
  · have step : (num + 1) * unitsPerOne ≤ whole * unitsPerOne := Nat.mul_le_mul_right _ more
    rw [Nat.succ_mul] at step
    omega

theorem ten_pow_lt : ∀ k < 324, 10 ^ k < 2 * unitsPerOne := by decide +kernel

theorem dvd_of_isWhole (positive : 0 < den) {negative : Bool}
    (whole : (ofRatio negative num den).isWhole = true) :
    den ∣ num ∨ 2 ^ 53 ≤ num ∨ 2 * unitsPerOne ≤ den := by
  obtain ⟨count, rounded⟩ : unitsPerOne ∣ units (nearestRank (num * unitsPerOne) den) := by
    rw [ofRatio_eq, ofRank] at whole
    split at whole
    next => exact Nat.dvd_of_mod_eq_zero (by simpa [isWhole] using whole)
    next => cases whole
  rw [Nat.mul_comm unitsPerOne count] at rounded
  by_cases same : count * den = num
  · exact .inl ⟨count, by rw [← same, Nat.mul_comm]⟩
  · right
    have apart := two_units_le_spacing positive rounded same
    rcases Nat.eq_zero_or_pos (runOf (num * unitsPerOne) den) with finest | spaced
    · right
      rwa [finest, pow_zero, Nat.mul_one] at apart
    · left
      apply Nat.le_of_mul_le_mul_right _ unitsPerOne_pos
      calc 2 ^ 53 * unitsPerOne = 2 ^ 52 * (2 * unitsPerOne) := by ring
        _ ≤ 2 ^ 52 * (den * 2 ^ runOf (num * unitsPerOne) den) := Nat.mul_le_mul_left _ apart
        _ ≤ num * unitsPerOne := le_of_runOf_pos spaced

end Fractions
end Catalog.Binary64
