import Catalog.Proofs.AddedFilters
import Catalog.Proofs.Decomposition

set_option autoImplicit false

namespace Catalog

namespace Plan

variable {plan : Plan}

def pageLength (plan : Plan) (total : Nat) : Nat :=
  let rest := total - plan.offset.getD 0
  match plan.limit with
  | none => rest
  | some limit => min limit rest

theorem length_page {α : Type} (rows : List α) :
    (plan.page rows).length = plan.pageLength rows.length := by
  unfold page pageLength
  cases plan.limit with
  | none => exact List.length_drop
  | some limit => rw [List.length_take, List.length_drop]

end Plan

namespace Store

variable {s : Store} {plan other : Plan}

theorem length_findProducts (s : Store) (plan : Plan) :
    (s.findProducts plan).length = plan.pageLength (s.countProducts plan) := by
  rw [findProducts, Plan.arrange, List.length_map, Plan.length_page, Plan.sort,
    List.length_mergeSort, List.length_map, countProducts]

end Store

namespace Service

variable {s : Store} {pairs others : Pairs} {plan : Plan}

end Service
end Catalog
