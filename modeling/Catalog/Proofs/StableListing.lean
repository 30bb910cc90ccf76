import Catalog.Proofs.Pages
import Catalog.Proofs.RecordOrder
import Catalog.Proofs.StableSort

set_option autoImplicit false

namespace Catalog

-- Each record of the result comes from a row of its own, and with the numbers of the rows it can be
-- told for records that tie, equal ones included, which of them was inserted first.
def StablySorted (keys : List OrderKey) (rows result : List Record) : Prop :=
  ∃ numbered : List (Record × Nat), numbered.Perm rows.zipIdx ∧ numbered.map (·.1) = result ∧
    numbered.Pairwise fun a b => ¬ OrderKey.SortsBefore keys b.1 a.1 ∧
      (OrderKey.AllTie keys a.1 b.1 → a.2 < b.2)

theorem StablySorted.unique {keys : List OrderKey} {rows result other : List Record}
    (sorted : StablySorted keys rows result) (again : StablySorted keys rows other) :
    result = other := by
  obtain ⟨numbered, same, rfl, ordered⟩ := sorted
  obtain ⟨numbered', same', rfl, ordered'⟩ := again
  have equal : numbered = numbered' := by
    refine List.Perm.eq_of_pairwise ?_ ordered ordered' (same.trans same'.symm)
    intro a b _ _ forth back
    rcases OrderKey.sortsBefore_or_allTie keys a.1 b.1 with before | after | tie
    · exact absurd before back.1
    · exact absurd after forth.1
    · have mirrored : OrderKey.AllTie keys b.1 a.1 := fun key member => (tie key member).symm
      have less := forth.2 tie
      have more := back.2 mirrored
      omega
  rw [equal]

structure Consistent {α : Type} (compare : α → α → Ordering) : Prop where
  self : ∀ a, compare a a = .eq
  reversed : ∀ a b, compare b a = (compare a b).swap
  notAfter : ∀ a b c, compare a b ≠ .gt → compare b c ≠ .gt → compare a c ≠ .gt
  ties : ∀ a b c, compare a b = .eq → compare b c = .eq → compare a c = .eq
  before : ∀ a b c, compare a b = .lt → compare b c = .lt → compare a c = .lt
  after : ∀ a b c, compare a b = .gt → compare b c = .gt → compare a c = .gt

theorem consistent_of_transCmp {α : Type} (compare : α → α → Ordering) [Std.TransCmp compare] :
    Consistent compare where
  self _ := Std.ReflCmp.compare_self
  reversed _ _ := Std.OrientedCmp.eq_swap
  notAfter a b c first second := by
    rw [ne_eq, Ordering.ne_gt_iff_isLE] at first second ⊢
    exact Std.TransCmp.isLE_trans first second
  ties _ _ _ := Std.TransCmp.eq_trans
  before _ _ _ := Std.TransCmp.lt_trans
  after _ _ _ := Std.TransCmp.gt_trans

namespace OrderKey

variable {keys : List OrderKey} {rows : List Record}

theorem notAfter_of_allTie {a b : Record} (tie : AllTie keys a b) : notAfter keys b a = true := by
  have even : compareBy keys a b = .eq := compareBy_eq_eq_iff.mpr tie
  rw [notAfter, Std.OrientedCmp.eq_symm even]
  rfl

theorem stablySorted_mergeSort (keys : List OrderKey) (rows : List Record) :
    StablySorted keys rows (rows.mergeSort (notAfter keys)) := by
  let byNumber := List.zipIdxLE (notAfter keys)
  have same : (rows.zipIdx.mergeSort byNumber).Perm rows.zipIdx := List.mergeSort_perm _ _
  have ordered : (rows.zipIdx.mergeSort byNumber).Pairwise (byNumber · ·) :=
    List.pairwise_mergeSort (List.zipIdxLE_trans notAfter_trans)
      (List.zipIdxLE_total notAfter_total) _
  have apart : (rows.zipIdx.mergeSort byNumber).Pairwise (·.2 ≠ ·.2) := by
    rw [← List.pairwise_map]
    have numbers : (rows.zipIdx.map (·.2)).Nodup := by
      rw [List.zipIdx_map_snd]
      exact List.nodup_range'
    exact (same.map (·.2)).nodup_iff.mpr numbers
  refine ⟨rows.zipIdx.mergeSort byNumber, same, List.mergeSort_zipIdx, ?_⟩
  refine (ordered.and apart).imp ?_
  rintro a b ⟨placed, different⟩
  refine ⟨notAfter_eq_true_iff.mp (StableSort.le_of_zipIdxLE placed), ?_⟩
  intro tie
  have number := StableSort.number_le_of_zipIdxLE placed (notAfter_of_allTie tie)
  exact Nat.lt_of_le_of_ne number different

theorem stablySorted_iff (keys : List OrderKey) (rows result : List Record) :
    StablySorted keys rows result ↔ result = rows.mergeSort (notAfter keys) := by
  constructor
  · intro sorted
    exact sorted.unique (stablySorted_mergeSort keys rows)
  · rintro rfl
    exact stablySorted_mergeSort keys rows

theorem comparison_consistent (keys : List OrderKey) :
    Consistent Json.compareValues ∧ Consistent (compareBy keys) ∧
      ∀ rows result, StablySorted keys rows result ↔ result = rows.mergeSort (notAfter keys) :=
  ⟨consistent_of_transCmp _, consistent_of_transCmp _, stablySorted_iff keys⟩

example : Json.compareValues none (some .null) = .eq ∧
    Json.compareValues (some (.arr [.null])) (some (.obj [("a", .arr [])])) = .eq := ⟨rfl, rfl⟩

end OrderKey

theorem Plan.stablySorted_arrange {plan : Plan} (noOffset : plan.offset = none)
    (noLimit : plan.limit = none) (noProjection : plan.projection = none) (rows : List Record) :
    StablySorted plan.order rows (plan.arrange rows) := by
  rw [Plan.arrange_unpaged noOffset noLimit, noProjection]
  have whole : (plan.sort rows).map (·.project none) = plan.sort rows := List.map_id _
  rw [whole]
  exact OrderKey.stablySorted_mergeSort plan.order rows

namespace Store

theorem stablySorted_find {s : Store} {plan : Plan} (noOffset : plan.offset = none)
    (noLimit : plan.limit = none) (noProjection : plan.projection = none) :
    StablySorted plan.order
        ((s.products.filter plan.matchesProduct).map (s.record (plan.relations.getD ∅)))
        (s.findProducts plan) ∧
      StablySorted plan.order (s.swipers.map Swiper.record) (s.findSwipers plan) :=
  ⟨Plan.stablySorted_arrange noOffset noLimit noProjection _,
    Plan.stablySorted_arrange noOffset noLimit noProjection _⟩

theorem stablySorted_find_shoeShop :
    ∃ plan : Plan, plan.order = [⟨"stock", .descending⟩, ⟨"colour", .ascending⟩] ∧
      (plan.offset = none ∧ plan.limit = none ∧ plan.projection = none) ∧
      StablySorted plan.order ((shoeShop.products.filter plan.matchesProduct).map
        (shoeShop.record (plan.relations.getD ∅))) (shoeShop.findProducts plan) ∧
      StablySorted plan.order (shoeShop.swipers.map Swiper.record) (shoeShop.findSwipers plan) :=
  ⟨{ order := [⟨"stock", .descending⟩, ⟨"colour", .ascending⟩] }, rfl, ⟨rfl, rfl, rfl⟩,
    stablySorted_find rfl rfl rfl⟩

end Store
end Catalog
