import Catalog.Proofs.AddedFilters
import Catalog.Proofs.Pages

set_option autoImplicit false

namespace Catalog

theorem Plan.page_sublist {α : Type} (plan : Plan) (rows : List α) :
    (plan.page rows).Sublist rows := by
  unfold Plan.page
  cases plan.limit with
  | none => exact List.drop_sublist _ _
  | some limit => exact (List.take_sublist _ _).trans (List.drop_sublist _ _)

theorem Plan.pairwise_page_mergeSort {α : Type} (plan : Plan) (record : α → Record)
    (rows : List α) :
    (plan.page (rows.mergeSort fun a b =>
      OrderKey.notAfter plan.order (record a) (record b))).Pairwise fun a b =>
        OrderKey.notAfter plan.order (record a) (record b) = true := by
  refine List.Pairwise.sublist (plan.page_sublist _) (List.pairwise_mergeSort ?_ ?_ _)
  · intro a b c
    exact OrderKey.notAfter_trans _ _ _
  · intro a b
    exact OrderKey.notAfter_total _ _

namespace Store

variable {s : Store} {plan : Plan}

def listed (s : Store) (plan : Plan) : List Product :=
  plan.page (s.ranked plan (s.products.filter (plan.filterSet.Passes ·)))

theorem findProducts_eq_map_listed (s : Store) (plan : Plan) :
    s.findProducts plan = (s.listed plan).map (s.row plan) := by
  rw [findProducts, Plan.arrange, matching_eq_filter_passes, ← map_record_ranked,
    ← Plan.map_page, List.map_map]
  rfl

theorem listed_congr (other : Plan) (filters : other.filterSet = plan.filterSet)
    (offset : other.offset = plan.offset) (limit : other.limit = plan.limit)
    (ordered : ∀ p q, OrderKey.notAfter other.order
        (s.record (other.relations.getD ∅) p) (s.record (other.relations.getD ∅) q) =
      OrderKey.notAfter plan.order
        (s.record (plan.relations.getD ∅) p) (s.record (plan.relations.getD ∅) q)) :
    s.listed other = s.listed plan := by
  simp only [listed, ranked, Plan.page, filters, offset, limit, ordered]

theorem mem_products_of_mem_listed {p : Product} (member : p ∈ s.listed plan) :
    p ∈ s.products := by
  have ranked := (plan.page_sublist _).mem member
  exact List.mem_of_mem_filter ((List.mergeSort_perm _ _).mem_iff.mp ranked)

theorem pairwise_listed (s : Store) (plan : Plan) :
    (s.listed plan).Pairwise fun p q => OrderKey.notAfter plan.order
      (s.record (plan.relations.getD ∅) p) (s.record (plan.relations.getD ∅) q) = true :=
  plan.pairwise_page_mergeSort _ _

theorem listed_of_sorted (noOffset : plan.offset = none) (noLimit : plan.limit = none)
    (all : s.products.filter (plan.filterSet.Passes ·) = s.products)
    (sorted : s.products.Pairwise fun p q => OrderKey.notAfter plan.order
      (s.record (plan.relations.getD ∅) p) (s.record (plan.relations.getD ∅) q) = true) :
    s.listed plan = s.products := by
  rw [listed, Plan.page_unpaged noOffset noLimit, all]
  exact List.mergeSort_of_pairwise sorted

def listedSwipers (s : Store) (plan : Plan) : List Swiper :=
  plan.page (s.swipers.mergeSort fun v w => OrderKey.notAfter plan.order v.record w.record)

theorem findSwipers_eq_map_listed (s : Store) (plan : Plan) :
    s.findSwipers plan = (s.listedSwipers plan).map (·.record.project plan.projection) := by
  have sorted : (s.swipers.mergeSort fun v w =>
      OrderKey.notAfter plan.order v.record w.record).map Swiper.record =
      plan.sort (s.swipers.map Swiper.record) :=
    List.map_mergeSort fun _ _ _ _ => rfl
  rw [findSwipers, Plan.arrange, ← sorted, ← Plan.map_page, List.map_map]
  rfl

end Store
end Catalog
