import Catalog.Proofs.AttachedRelations

set_option autoImplicit false

namespace Catalog

namespace OrderKey

variable {told seen : List String} {a b : Record}

-- What is seen are the fields of all earlier keys, also of those that are left out.
def decisive (told seen : List String) : List OrderKey → List OrderKey
  | [] => []
  | key :: rest =>
    if key.field ∈ seen ∨ key.field ∉ told then decisive told (key.field :: seen) rest
    else key :: decisive told (key.field :: seen) rest

-- By induction on the keys: where the rest of them is asked, the records tie on all that is seen.
theorem compareBy_decisive (untold : ∀ key : OrderKey, key.field ∉ told → key.Ties a b)
    (tied : ∀ key : OrderKey, key.field ∈ seen → key.Ties a b) (keys : List OrderKey) :
    compareBy (decisive told seen keys) a b = compareBy keys a b := by
  induction keys generalizing seen with
  | nil => rfl
  | cons key rest ih =>
    have later (tie : key.Ties a b) :
        compareBy (decisive told (key.field :: seen) rest) a b = compareBy rest a b := by
      apply ih
      intro other member
      rcases List.mem_cons.mp member with same | earlier
      · rwa [Ties, same]
      · exact tied other earlier
    rw [decisive]
    split
    next redundant =>
      have tie : key.Ties a b := redundant.elim (tied key) (untold key)
      rw [later tie, compareBy, compareRecords_eq_eq_iff.mpr tie]
      rfl
    next =>
      rw [compareBy, compareBy]
      by_cases tie : key.Ties a b
      · rw [later tie]
      · have decided : key.compareRecords a b ≠ .eq := mt compareRecords_eq_eq_iff.mp tie
        cases order : key.compareRecords a b with
        | eq => exact absurd order decided
        | lt => rfl
        | gt => rfl

theorem notAfter_decisive (untold : ∀ key : OrderKey, key.field ∉ told → key.Ties a b)
    (keys : List OrderKey) : notAfter (decisive told [] keys) a b = notAfter keys a b := by
  have unseen : ∀ key : OrderKey, key.field ∈ ([] : List String) → key.Ties a b := by simp
  rw [notAfter, notAfter, compareBy_decisive untold unseen]

example : decisive ["id", "price"] []
    [⟨"price", .descending⟩, ⟨"colour", .ascending⟩, ⟨"price", .ascending⟩, ⟨"id", .ascending⟩] =
      [⟨"price", .descending⟩, ⟨"id", .ascending⟩] := by decide

end OrderKey

theorem Swiper.ties_record {key : OrderKey} (foreign : key.field ∉ Profile.swiper.scalars)
    (v w : Swiper) : key.Ties v.record w.record := by
  have absent (w : Swiper) : key.field ∉ w.record.fields := by
    intro inside
    rcases (w.carries_record [] key.field).mp inside with own | ⟨-, attached⟩
    · exact foreign own
    · cases attached
  rw [OrderKey.Ties, Record.get?_of_not_mem_fields (absent v),
    Record.get?_of_not_mem_fields (absent w)]

namespace Plan

def productFields (plan : Plan) : List String :=
  Profile.product.scalars ++ if plan.includes "category" then ["category"] else []

def withDecisiveKeys (plan : Plan) (fields : List String) : Plan :=
  { plan with order := OrderKey.decisive fields [] plan.order }

variable {plan : Plan} {field : String}

theorem isSet_relations (plan : Plan) (relation : String) :
    (plan.relations.getD ∅).isSet relation = plan.includes relation := by
  unfold includes
  cases plan.relations <;> rfl

theorem not_mem_productFields_iff : field ∉ plan.productFields ↔
    field ∉ Profile.product.scalars ∧ (field = "category" → plan.includes "category" = false) := by
  cases included : plan.includes "category" <;> simp [productFields, included]

end Plan

namespace Store

theorem listed_withDecisiveKeys (s : Store) (plan : Plan) :
    s.listed (plan.withDecisiveKeys plan.productFields) = s.listed plan := by
  refine listed_congr (plan.withDecisiveKeys plan.productFields) rfl rfl rfl fun p q => ?_
  apply OrderKey.notAfter_decisive
  intro key untold
  obtain ⟨foreign, uncategorized⟩ := Plan.not_mem_productFields_iff.mp untold
  refine ties_record foreign ?_ p q
  intro named
  exact (plan.isSet_relations "category").trans (uncategorized named)

theorem listedSwipers_withDecisiveKeys (s : Store) (plan : Plan) :
    s.listedSwipers (plan.withDecisiveKeys Profile.swiper.scalars) = s.listedSwipers plan := by
  have alike (v w : Swiper) :
      OrderKey.notAfter (OrderKey.decisive Profile.swiper.scalars [] plan.order) v.record w.record =
        OrderKey.notAfter plan.order v.record w.record :=
    OrderKey.notAfter_decisive (fun _ foreign => Swiper.ties_record foreign v w) plan.order
  simp only [listedSwipers, Plan.withDecisiveKeys, Plan.page, alike]

theorem redundant_keys_change_nothing (s : Store) (plan : Plan) :
    s.findProducts (plan.withDecisiveKeys plan.productFields) = s.findProducts plan ∧
      s.findSwipers (plan.withDecisiveKeys Profile.swiper.scalars) = s.findSwipers plan := by
  constructor
  · rw [findProducts_eq_map_listed, findProducts_eq_map_listed, listed_withDecisiveKeys]
    rfl
  · rw [findSwipers_eq_map_listed, findSwipers_eq_map_listed, listedSwipers_withDecisiveKeys]
    rfl

end Store
end Catalog
