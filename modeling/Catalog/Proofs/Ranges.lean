import Catalog.Interval
import Catalog.Proofs.Steps

set_option autoImplicit false

namespace Catalog

def RangeTerm.Admits (term : String) (x : Binary64) : Prop :=
  ∃ t, RangeTerm.read? term = some t ∧ t.comparison.holds x t.value = true

theorem RangeTerm.isFinite_of_read? {term : String} {t : RangeTerm}
    (read : RangeTerm.read? term = some t) : t.value.isFinite = true := by
  simp only [RangeTerm.read?] at read
  split at read
  next => cases read
  next =>
    split at read
    next comparison value named number =>
      split at read
      next finite =>
        cases read
        exact finite
      next => cases read
    next => cases read

theorem RangeField.readTerm_ok {field : RangeField} {term : String} {t : RangeTerm}
    (read : field.readTerm term = .ok t) :
    RangeTerm.read? term = some t ∧ (field.kind = .integer → t.value.isWhole = true) := by
  unfold RangeField.readTerm at read
  split at read
  next found known =>
    split at read
    next => cases read
    next accepted =>
      cases read
      refine ⟨known, ?_⟩
      intro integer
      simpa [integer] using accepted
  next => cases read

structure Interval.Joins (i : Interval) (ts : List RangeTerm) : Prop where
  nonempty : ts ≠ []
  lower : ∀ b, i.lower = some b ↔ ∃ t ∈ ts, t.comparison.isUpper = false ∧ t.bound = b
  upper : ∀ b, i.upper = some b ↔ ∃ t ∈ ts, t.comparison.isUpper = true ∧ t.bound = b

theorem Interval.joins_single (t : RangeTerm) : t.interval.Joins [t] := by
  cases side : t.comparison.isUpper <;>
    exact ⟨by simp, by simp [RangeTerm.interval, side], by simp [RangeTerm.interval, side]⟩

theorem Interval.joins_pair {below above : RangeTerm} (lower : below.comparison.isUpper = false)
    (upper : above.comparison.isUpper = true) :
    (⟨some below.bound, some above.bound⟩ : Interval).Joins [below, above] :=
  ⟨by simp, by simp [lower, upper], by simp [lower, upper]⟩

theorem Interval.Joins.swap {i : Interval} {s t : RangeTerm} (joins : i.Joins [s, t]) :
    i.Joins [t, s] := by
  refine ⟨by simp, ?_, ?_⟩
  · intro b
    rw [joins.lower b]
    simp [or_comm]
  · intro b
    rw [joins.upper b]
    simp [or_comm]

theorem RangeField.interval_ok {field : RangeField} {terms : List String} {i : Interval}
    (accepted : field.interval terms = .ok i) :
    ∃ ts, List.Forall₂ (fun term t => field.readTerm term = .ok t) terms ts ∧ i.Joins ts := by
  match terms, accepted with
  | [], accepted => cases accepted
  | [term], accepted =>
    obtain ⟨t, read, same⟩ := Steps.bind_eq_ok.mp accepted
    cases same
    exact ⟨[t], .cons read .nil, Interval.joins_single t⟩
  | [first, second], accepted =>
    obtain ⟨s, readFirst, accepted⟩ := Steps.bind_eq_ok.mp accepted
    obtain ⟨t, readSecond, accepted⟩ := Steps.bind_eq_ok.mp accepted
    refine ⟨[s, t], .cons readFirst (.cons readSecond .nil), ?_⟩
    split at accepted
    next => cases accepted
    next distinct =>
      split at accepted
      next upper =>
        cases accepted
        have lower : t.comparison.isUpper = false := by simpa [upper] using distinct
        exact (Interval.joins_pair lower upper).swap
      next notUpper =>
        cases accepted
        have lower : s.comparison.isUpper = false := by simpa using notUpper
        have upper : t.comparison.isUpper = true := by simpa [lower] using distinct
        exact Interval.joins_pair lower upper
  | _ :: _ :: _ :: _, accepted => cases accepted

def Bound.above (b : Bound) (x : Binary64) : Bool :=
  if b.inclusive then b.value.le x else b.value.lt x

def Bound.below (b : Bound) (x : Binary64) : Bool :=
  if b.inclusive then x.le b.value else x.lt b.value

theorem Interval.contains_iff {i : Interval} {x : Binary64} :
    i.contains x = true ↔
      (∀ b, i.lower = some b → b.above x = true) ∧ ∀ b, i.upper = some b → b.below x = true := by
  obtain ⟨lower, upper⟩ := i
  cases lower <;> cases upper <;> simp [contains, aboveLower, belowUpper, Bound.above, Bound.below]

theorem RangeTerm.above_bound {t : RangeTerm} (lower : t.comparison.isUpper = false)
    (x : Binary64) : t.bound.above x = t.comparison.holds x t.value := by
  obtain ⟨comparison, value⟩ := t
  cases comparison <;> first | rfl | cases lower

theorem RangeTerm.below_bound {t : RangeTerm} (upper : t.comparison.isUpper = true)
    (x : Binary64) : t.bound.below x = t.comparison.holds x t.value := by
  obtain ⟨comparison, value⟩ := t
  cases comparison <;> first | rfl | cases upper

theorem Interval.Joins.contains_iff {i : Interval} {ts : List RangeTerm} (joins : i.Joins ts)
    (x : Binary64) : i.contains x = true ↔ ∀ t ∈ ts, t.comparison.holds x t.value = true := by
  rw [Interval.contains_iff]
  constructor
  · rintro ⟨lower, upper⟩ t member
    cases side : t.comparison.isUpper with
    | false =>
      rw [← RangeTerm.above_bound side]
      exact lower t.bound ((joins.lower _).mpr ⟨t, member, side, rfl⟩)
    | true =>
      rw [← RangeTerm.below_bound side]
      exact upper t.bound ((joins.upper _).mpr ⟨t, member, side, rfl⟩)
  · intro all
    constructor
    · intro b found
      obtain ⟨t, member, side, rfl⟩ := (joins.lower b).mp found
      rw [RangeTerm.above_bound side]
      exact all t member
    · intro b found
      obtain ⟨t, member, side, rfl⟩ := (joins.upper b).mp found
      rw [RangeTerm.below_bound side]
      exact all t member

theorem RangeField.contains_interval_iff {field : RangeField} {terms : List String} {i : Interval}
    (accepted : field.interval terms = .ok i) (x : Binary64) :
    i.contains x = true ↔ ∀ term ∈ terms, RangeTerm.Admits term x := by
  obtain ⟨ts, reads, joins⟩ := RangeField.interval_ok accepted
  rw [joins.contains_iff]
  clear accepted joins
  induction reads with
  | nil => simp
  | cons read rest ih =>
    have known := (RangeField.readTerm_ok read).1
    simp [RangeTerm.Admits, known, ih]

end Catalog
