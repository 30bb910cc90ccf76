import Catalog.Proofs.AddedFilters

set_option autoImplicit false

namespace Catalog

namespace OrderKey

variable {keys : List OrderKey}

-- Where two records tie, the new one is behind the old one.
def TakesIn (keys : List OrderKey) (record : Record) (listing longer : List Record) : Prop :=
  ∃ front back, listing = front ++ back ∧ longer = front ++ record :: back ∧
    (∀ r ∈ front, ¬ SortsBefore keys record r) ∧ ∀ r ∈ back, SortsBefore keys record r

theorem takesIn_mergeSort (rows : List Record) (record : Record) :
    TakesIn keys record (rows.mergeSort (notAfter keys))
      ((rows ++ [record]).mergeSort (notAfter keys)) := by
  obtain ⟨front, back, shorter, longer, low, high⟩ :=
    StableSort.mergeSort_concat notAfter_trans notAfter_total rows record
  refine ⟨front, back, shorter, longer, ?_, ?_⟩
  · intro r member
    exact notAfter_eq_true_iff.mp (low r member)
  · intro r member
    by_contra unsorted
    rw [← notAfter_eq_true_iff, high r member] at unsorted
    cases unsorted

theorem TakesIn.eq_concat {record : Record} {listing longer : List Record}
    (taken : TakesIn [] record listing longer) : longer = listing ++ [record] := by
  obtain ⟨front, back, rfl, rfl, -, high⟩ := taken
  cases back with
  | nil => simp
  | cons r rest => exact absurd (high r List.mem_cons_self) not_sortsBefore_nil

end OrderKey

namespace Store

variable {s : Store} {plan : Plan}

theorem matching_insertProduct (p : Product) : (s.insertProduct p).matching plan =
    s.matching plan ++ if plan.matchesProduct p = true then [p] else [] := by
  simp [matching, insertProduct, List.filter_append, List.filter_singleton]

theorem findProducts_whole (noOffset : plan.offset = none) (noLimit : plan.limit = none)
    (noProjection : plan.projection = none) : s.findProducts plan =
      ((s.matching plan).map (s.record (plan.relations.getD ∅))).mergeSort
        (OrderKey.notAfter plan.order) := by
  rw [findProducts, Plan.arrange_unpaged noOffset noLimit, noProjection]
  exact List.map_id _

structure GrowsBy (s : Store) (plan : Plan) (p : Product) : Prop where
  unmatched : ¬ plan.filterSet.Passes p →
    (s.insertProduct p).findProducts plan = s.findProducts plan
  matched : plan.filterSet.Passes p →
    OrderKey.TakesIn plan.order (s.record (plan.relations.getD ∅) p) (s.findProducts plan)
      ((s.insertProduct p).findProducts plan)
  unordered : plan.filterSet.Passes p → plan.order = [] →
    (s.insertProduct p).findProducts plan =
      s.findProducts plan ++ [s.record (plan.relations.getD ∅) p]

theorem takesIn_insertProduct (noOffset : plan.offset = none) (noLimit : plan.limit = none)
    (noProjection : plan.projection = none) {p : Product} (passes : plan.filterSet.Passes p) :
    OrderKey.TakesIn plan.order (s.record (plan.relations.getD ∅) p) (s.findProducts plan)
      ((s.insertProduct p).findProducts plan) := by
  have matched : plan.matchesProduct p = true := Plan.matchesProduct_iff_passes p |>.mpr passes
  rw [findProducts_whole noOffset noLimit noProjection,
    findProducts_whole noOffset noLimit noProjection, matching_insertProduct, if_pos matched,
    List.map_append]
  exact OrderKey.takesIn_mergeSort _ _

theorem growsBy_insertProduct (noOffset : plan.offset = none) (noLimit : plan.limit = none)
    (noProjection : plan.projection = none) (p : Product) : s.GrowsBy plan p := by
  refine ⟨?_, takesIn_insertProduct noOffset noLimit noProjection, ?_⟩
  · intro fails
    rw [← Plan.matchesProduct_iff_passes] at fails
    rw [findProducts, matching_insertProduct, if_neg fails, List.append_nil]
    rfl
  · intro passes unordered
    have taken := takesIn_insertProduct (s := s) noOffset noLimit noProjection passes
    rw [unordered] at taken
    exact taken.eq_concat

structure SameProducts (s t : Store) : Prop where
  listings : ∀ plan, t.findProducts plan = s.findProducts plan
  counts : ∀ plan, t.countProducts plan = s.countProducts plan
  singles : ∀ id relations, t.findProduct id relations = s.findProduct id relations

theorem sameProducts_insertSwiper (s : Store) (w : Swiper) :
    s.SameProducts (s.insertSwiper w) :=
  ⟨fun _ => rfl, fun _ => rfl, fun _ _ => rfl⟩

theorem insertion_changes_one_record (s : Store) :
    (∀ plan : Plan, plan.offset = none → plan.limit = none → plan.projection = none →
      ∀ p, s.GrowsBy plan p) ∧
    ∀ w, s.SameProducts (s.insertSwiper w) := by
  constructor
  · intro plan noOffset noLimit noProjection p
    exact growsBy_insertProduct noOffset noLimit noProjection p
  · exact s.sameProducts_insertSwiper

def redByStock : Plan := { order := [⟨"stock", .descending⟩], searchTerm := some "red" }

def redSandal : Product :=
  { id := 1, name := "Red Sandal", price := .ofNat 12, stock := some 5,
    createdAt := ⟨⟨2024, 1, 3⟩, 0, 0, 0, 0⟩ }

def blueSandal : Product := { redSandal with id := 4, name := "Blue Sandal" }

theorem insertion_changes_one_record_shoeShop :
    (redByStock.offset = none ∧ redByStock.limit = none ∧ redByStock.projection = none) ∧
      (redByStock.filterSet.Passes redSandal ∧
        OrderKey.TakesIn redByStock.order (shoeShop.record ∅ redSandal)
          (shoeShop.findProducts redByStock)
          ((shoeShop.insertProduct redSandal).findProducts redByStock)) ∧
      ¬ redByStock.filterSet.Passes blueSandal ∧
        (shoeShop.insertProduct blueSandal).findProducts redByStock =
          shoeShop.findProducts redByStock := by
  obtain ⟨grows, -⟩ := insertion_changes_one_record shoeShop
  have red : redByStock.filterSet.Passes redSandal := by decide +kernel
  have blue : ¬ redByStock.filterSet.Passes blueSandal := by decide +kernel
  exact ⟨⟨rfl, rfl, rfl⟩, ⟨red, (grows redByStock rfl rfl rfl redSandal).matched red⟩, blue,
    (grows redByStock rfl rfl rfl blueSandal).unmatched blue⟩

end Store
end Catalog
