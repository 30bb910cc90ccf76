import Catalog.Proofs.Ranges

set_option autoImplicit false

namespace Catalog

theorem Interval.Joins.isUnbounded {i : Interval} {ts : List RangeTerm} (joins : i.Joins ts) :
    i.isUnbounded = false := by
  obtain ⟨t, member⟩ := List.exists_mem_of_ne_nil ts joins.nonempty
  cases side : t.comparison.isUpper with
  | false =>
    have bounded := (joins.lower t.bound).mpr ⟨t, member, side, rfl⟩
    simp [Interval.isUnbounded, bounded]
  | true =>
    have bounded := (joins.upper t.bound).mpr ⟨t, member, side, rfl⟩
    simp [Interval.isUnbounded, bounded]

theorem Interval.Joins.unique {i j : Interval} {ts : List RangeTerm} (left : i.Joins ts)
    (right : j.Joins ts) : i = j := by
  have lower : i.lower = j.lower := Option.ext fun b => (left.lower b).trans (right.lower b).symm
  have upper : i.upper = j.upper := Option.ext fun b => (left.upper b).trans (right.upper b).symm
  obtain ⟨iLower, iUpper⟩ := i
  simp_all

namespace RangeField

structure Takes (field : RangeField) (term : String) (t : RangeTerm) : Prop where
  read : RangeTerm.read? term = some t
  whole : field.kind = .integer → t.value.isWhole = true

variable {field : RangeField} {term first second : String} {s t : RangeTerm}

theorem readTerm_eq_ok_iff : field.readTerm term = .ok t ↔ field.Takes term t := by
  constructor
  · intro accepted
    obtain ⟨read, whole⟩ := readTerm_ok accepted
    exact ⟨read, whole⟩
  · rintro ⟨read, whole⟩
    have passes : (field.kind = .integer && !t.value.isWhole) = false := by
      by_cases integer : field.kind = .integer
      · simp [whole integer]
      · simp [integer]
    simp [readTerm, read, passes]

theorem readTerm_of_not_takes (untaken : ∀ t, ¬ field.Takes term t) :
    field.readTerm term = .error (.invalidRangeValue field.name term) := by
  cases read : field.readTerm term with
  | ok t => exact absurd (readTerm_eq_ok_iff.mp read) (untaken t)
  | error e =>
    unfold readTerm at read
    split at read
    next =>
      split at read
      next => exact read.symm
      next => cases read
    next => exact read.symm

section Pairs

variable (taken : field.Takes first s)

include taken in
theorem interval_of_second_untaken (untaken : ∀ t, ¬ field.Takes second t) :
    field.interval [first, second] = .error (.invalidRangeValue field.name second) := by
  rw [interval, readTerm_eq_ok_iff.mpr taken, readTerm_of_not_takes untaken]
  rfl

include taken in
theorem interval_of_same_side (takenToo : field.Takes second t)
    (side : s.comparison.isUpper = t.comparison.isUpper) :
    field.interval [first, second] =
      .error (.conflictingRangeTerms field.name first second) := by
  rw [interval, readTerm_eq_ok_iff.mpr taken, readTerm_eq_ok_iff.mpr takenToo]
  exact if_pos side

include taken in
theorem exists_interval_pair (takenToo : field.Takes second t)
    (sides : s.comparison.isUpper ≠ t.comparison.isUpper) :
    ∃ i, field.interval [first, second] = .ok i := by
  rw [interval, readTerm_eq_ok_iff.mpr taken, readTerm_eq_ok_iff.mpr takenToo]
  simp only [bind, Except.bind, if_neg sides]
  split
  · exact ⟨_, rfl⟩
  · exact ⟨_, rfl⟩

end Pairs

theorem interval_of_first_untaken (untaken : ∀ t, ¬ field.Takes first t) {after : List String}
    (few : after.length ≤ 1) :
    field.interval (first :: after) = .error (.invalidRangeValue field.name first) := by
  match after, few with
  | [], _ | [_], _ =>
    rw [interval, readTerm_of_not_takes untaken]
    rfl

theorem forall₂_takes_unique {terms : List String} {ts ts' : List RangeTerm}
    (read : List.Forall₂ field.Takes terms ts) (again : List.Forall₂ field.Takes terms ts') :
    ts = ts' := by
  induction read generalizing ts' with
  | nil =>
    cases again
    rfl
  | cons first later ih =>
    cases again with
    | cons first' later' =>
      have same := first.read.symm.trans first'.read
      rw [ih later', Option.some.inj same]

theorem joins_of_interval {terms : List String} {ts : List RangeTerm} {i : Interval}
    (taken : List.Forall₂ field.Takes terms ts) (accepted : field.interval terms = .ok i) :
    i.Joins ts := by
  obtain ⟨read, reads, joins⟩ := interval_ok accepted
  have takes : List.Forall₂ field.Takes terms read := reads.imp fun _ _ => readTerm_eq_ok_iff.mp
  rwa [forall₂_takes_unique taken takes]

structure Bounds (field : RangeField) (terms : List String) (ts : List RangeTerm) (i : Interval) :
    Prop where
  accepted : field.interval terms = .ok i
  contains_iff : ∀ x, i.contains x = true ↔ ∀ t ∈ ts, t.comparison.holds x t.value = true
  bounded : i.isUnbounded = false
  swapped : field.interval terms.reverse = .ok i

theorem bounds_single (taken : field.Takes term t) : ∃ i, field.Bounds [term] [t] i := by
  have accepted : field.interval [term] = .ok t.interval := by
    rw [interval, readTerm_eq_ok_iff.mpr taken]
    rfl
  have joins := joins_of_interval (.cons taken .nil) accepted
  exact ⟨t.interval, accepted, joins.contains_iff, joins.isUnbounded, accepted⟩

theorem bounds_pair (taken : field.Takes first s) (takenToo : field.Takes second t)
    (sides : s.comparison.isUpper ≠ t.comparison.isUpper) :
    ∃ i, field.Bounds [first, second] [s, t] i := by
  obtain ⟨i, accepted⟩ := exists_interval_pair taken takenToo sides
  obtain ⟨j, swapped⟩ := exists_interval_pair takenToo taken sides.symm
  have joins := joins_of_interval (.cons taken (.cons takenToo .nil)) accepted
  have joins' := joins_of_interval (.cons takenToo (.cons taken .nil)) swapped
  rw [← joins.unique joins'.swap] at swapped
  exact ⟨i, accepted, joins.contains_iff, joins.isUnbounded, swapped⟩

-- Each clause is for terms that none of the clauses before it is about.
structure Decided (field : RangeField) (terms : List String) : Prop where
  tooMany : 2 < terms.length →
    field.interval terms = .error (.tooManyRangeTerms field.name terms.length)
  missing : terms = [] → field.interval terms = .error (.invalidRangeValue field.name "")
  untaken : terms.length ≤ 2 → ∀ before term after, terms = before ++ term :: after →
    (∀ earlier ∈ before, ∃ t, field.Takes earlier t) → (∀ t, ¬ field.Takes term t) →
      field.interval terms = .error (.invalidRangeValue field.name term)
  conflicting : ∀ first second s t, terms = [first, second] → field.Takes first s →
    field.Takes second t → s.comparison.isUpper = t.comparison.isUpper →
      field.interval terms = .error (.conflictingRangeTerms field.name first second)
  bounds : terms ≠ [] → terms.length ≤ 2 → ∀ ts, List.Forall₂ field.Takes terms ts →
    ts.Pairwise (·.comparison.isUpper ≠ ·.comparison.isUpper) → ∃ i, field.Bounds terms ts i

theorem interval_decided (field : RangeField) (terms : List String) : field.Decided terms where
  tooMany many := by
    match terms, many with
    | _ :: _ :: _ :: _, _ => rfl
  missing none := by
    rw [none]
    rfl
  untaken few before term after split earlier refused := by
    subst split
    match before, earlier with
    | [], _ =>
      refine interval_of_first_untaken refused ?_
      simpa using few
    | [first], earlier =>
      obtain ⟨s, taken⟩ := earlier first List.mem_cons_self
      have last : after = [] := by simpa using few
      subst last
      exact interval_of_second_untaken taken refused
    | _ :: _ :: rest, _ => simp at few
  conflicting first second s t split taken takenToo side := by
    rw [split]
    exact interval_of_same_side taken takenToo side
  bounds given few ts taken sides := by
    cases taken with
    | nil => exact absurd rfl given
    | cons first later =>
      cases later with
      | nil => exact bounds_single first
      | cons second rest =>
        cases rest with
        | nil => exact bounds_pair first second (by simpa using sides)
        | cons third others => simp at few

example : RangeField.stock.interval ["gte_1", "gt_two"] =
    .error (.invalidRangeValue "stock" "gt_two") := by
  decide +kernel

end RangeField
end Catalog
