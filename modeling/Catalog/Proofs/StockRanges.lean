import Catalog.Proofs.AddedFilters
import Catalog.Proofs.RangeDecision
import Catalog.Proofs.WrittenTerms

set_option autoImplicit false

namespace Catalog

def Comparison.Orders : Comparison → ℤ → ℤ → Prop
  | .lt, m, n => m < n
  | .lte, m, n => m ≤ n
  | .gt, m, n => n < m
  | .gte, m, n => n ≤ m

instance : (c : Comparison) → (m n : ℤ) → Decidable (c.Orders m n)
  | .lt, m, n => inferInstanceAs (Decidable (m < n))
  | .lte, m, n => inferInstanceAs (Decidable (m ≤ n))
  | .gt, m, n => inferInstanceAs (Decidable (n < m))
  | .gte, m, n => inferInstanceAs (Decidable (n ≤ m))

theorem Comparison.holds_ofInt_iff {c : Comparison} {m n : ℤ} (sharp : ¬ Binary64.Blurs m n) :
    c.holds (.ofInt m) (.ofInt n) = true ↔ c.Orders m n := by
  have sharp' : ¬ Binary64.Blurs n m := fun blurs => sharp blurs.symm
  cases c with
  | lt => exact Binary64.lt_ofInt_iff sharp
  | lte => exact Binary64.le_ofInt_iff sharp
  | gt => exact Binary64.lt_ofInt_iff sharp'
  | gte => exact Binary64.le_ofInt_iff sharp'

theorem RangeField.exists_takes_of_interval {field : RangeField} {terms : List String}
    {i : Interval} (accepted : field.interval terms = .ok i) :
    ∀ term ∈ terms, ∃ t, field.Takes term t := by
  obtain ⟨ts, reads, -⟩ := interval_ok accepted
  intro term member
  obtain ⟨t, read⟩ := Steps.exists_of_forall₂ reads term member
  exact ⟨t, readTerm_eq_ok_iff.mp read⟩

namespace WrittenTerm

variable {w : WrittenTerm} {term : String}

theorem Spells.of_takes {field : RangeField} {t : RangeTerm} (spells : w.Spells term)
    (takes : field.Takes term t) : t = ⟨w.comparison, w.nearest⟩ := by
  have read := spells.read?
  rw [takes.read] at read
  obtain ⟨-, same⟩ := Option.ite_none_right_eq_some.mp read.symm
  exact (Option.some.inj same).symm

theorem Spells.admits_iff {field : RangeField} {t : RangeTerm} (spells : w.Spells term)
    (takes : field.Takes term t) (x : Binary64) :
    RangeTerm.Admits term x ↔ w.comparison.holds x w.nearest = true := by
  rw [RangeTerm.Admits, takes.read, spells.of_takes takes]
  simp

end WrittenTerm

namespace Plan

structure FiltersStock (plan : Plan) (terms : List String) : Prop where
  integers : ∀ term ∈ terms, ∃ w : WrittenTerm, w.Spells term ∧ (w.IsInteger ∨ w.IsLong)
  uncounted : ∀ p : Product, p.stock = none → plan.matchesProduct p = false
  counted : ∀ (p : Product) (n : ℤ), p.stock = some n →
    (∀ term ∈ terms, ∀ w : WrittenTerm, w.Spells term →
      w.IsInteger ∧ ¬ Binary64.Blurs n w.integer) →
    (plan.matchesProduct p = true ↔
      ∀ term ∈ terms, ∀ w : WrittenTerm, w.Spells term → w.comparison.Orders n w.integer)

variable {plan : Plan} {i : Interval}

theorem matchesProduct_of_stockRange (only : plan.filterSet = { stockRange := some i })
    (p : Product) : plan.matchesProduct p = true ↔
      ∃ n ∈ p.stock, i.contains (Binary64.ofInt n) = true := by
  rw [matchesProduct_iff_passes, only]
  constructor
  · intro passes
    exact passes.stock i rfl
  · intro inside
    exact {
      price := by simp
      stock := by simpa using inside
      category := by simp
      search := by simp
      featured := by simp }

theorem stock_range_filters_integers {terms : List String}
    (accepted : RangeField.stock.interval terms = .ok i)
    (only : plan.filterSet = { stockRange := some i }) : plan.FiltersStock terms := by
  have taken := RangeField.exists_takes_of_interval accepted
  refine ⟨?_, ?_, ?_⟩
  · intro term member
    obtain ⟨t, takes⟩ := taken term member
    obtain ⟨w, spells⟩ := WrittenTerm.exists_spells_of_read? takes.read
    have whole := takes.whole rfl
    rw [spells.of_takes takes] at whole
    exact ⟨w, spells, spells.isInteger_or_isLong whole⟩
  · intro p uncounted
    rw [Bool.eq_false_iff, ne_eq, matchesProduct_of_stockRange only, uncounted]
    simp
  · intro p n counted sharp
    rw [matchesProduct_of_stockRange only, counted]
    simp only [Option.mem_some, exists_eq_left', RangeField.contains_interval_iff accepted]
    refine forall₂_congr fun term member => ?_
    obtain ⟨t, takes⟩ := taken term member
    constructor
    · intro admits w spells
      obtain ⟨integer, apart⟩ := sharp term member w spells
      rwa [spells.admits_iff takes, WrittenTerm.nearest_of_isInteger integer,
        Comparison.holds_ofInt_iff apart] at admits
    · intro ordered
      obtain ⟨w, spells⟩ := WrittenTerm.exists_spells_of_read? takes.read
      obtain ⟨integer, apart⟩ := sharp term member w spells
      rw [spells.admits_iff takes, WrittenTerm.nearest_of_isInteger integer,
        Comparison.holds_ofInt_iff apart]
      exact ordered w spells

def fullShelf : Product where
  id := 1
  name := "Pins"
  price := .ofNat 1
  stock := some 9007199254740993
  createdAt := ⟨⟨2024, 1, 1⟩, 0, 0, 0, 0⟩

theorem stock_range_filters_integers_padded :
    ∃ i, RangeField.stock.interval ["gte_02.00", "lt_9007199254740993"] = .ok i ∧
      ({ stockRange := some i } : Plan).filterSet = { stockRange := some i } ∧
      ({ stockRange := some i } : Plan).FiltersStock ["gte_02.00", "lt_9007199254740993"] := by
  obtain ⟨i, accepted, -⟩ := Steps.exists_of_any
    (x := RangeField.stock.interval ["gte_02.00", "lt_9007199254740993"]) (p := fun _ => true)
    (by decide +kernel)
  exact ⟨i, accepted, rfl, stock_range_filters_integers accepted rfl⟩

-- A fraction is taken for the integer next to it, and a stock above the bound for the bound.
theorem stock_range_rounded :
    (∃ i, RangeField.stock.interval ["gt_2.00000000000000000001"] = .ok i ∧
      ∃ w : WrittenTerm, w.Spells "gt_2.00000000000000000001" ∧ ¬ w.IsInteger) ∧
    ∃ i p n, RangeField.stock.interval ["gt_9007199254740992"] = .ok i ∧
      (∃ w : WrittenTerm, w.Spells "gt_9007199254740992" ∧ w.IsInteger ∧
        w.comparison.Orders n w.integer) ∧
      p.stock = some n ∧ ({ stockRange := some i } : Plan).matchesProduct p = false := by
  constructor
  · obtain ⟨i, accepted, -⟩ := Steps.exists_of_any
      (x := RangeField.stock.interval ["gt_2.00000000000000000001"]) (p := fun _ => true)
      (by decide +kernel)
    refine ⟨i, accepted, ⟨.gt, "2".toList, "00000000000000000001".toList⟩, ?_, ?_⟩
    · exact ⟨"2.00000000000000000001".toList, by decide, List.all_eq_true.mp (by decide),
        by decide, .inr (by decide)⟩
    · intro integer
      exact absurd (integer '1' (by decide)) (by decide)
  · obtain ⟨i, accepted, refused⟩ := Steps.exists_of_any
      (x := RangeField.stock.interval ["gt_9007199254740992"])
      (p := fun i => !({ stockRange := some i } : Plan).matchesProduct fullShelf)
      (by decide +kernel)
    refine ⟨i, fullShelf, 9007199254740993, accepted, ?_, rfl, by simpa using refused⟩
    refine ⟨⟨.gt, "9007199254740992".toList, []⟩, ?_, List.forall_mem_nil _, by decide⟩
    exact ⟨"9007199254740992".toList, by decide, List.all_eq_true.mp (by decide), by decide,
      .inl (by decide)⟩

end Plan
end Catalog
