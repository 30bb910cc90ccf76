import Catalog.Proofs.ListedEntities

set_option autoImplicit false

namespace Catalog

theorem OrderKey.compareBy_congr {keys : List OrderKey} {a b a' b' : Record}
    (same : ∀ key ∈ keys, key.compareRecords a b = key.compareRecords a' b') :
    compareBy keys a b = compareBy keys a' b' := by
  induction keys with
  | nil => rfl
  | cons key rest ih =>
    obtain ⟨first, later⟩ := List.forall_mem_cons.mp same
    rw [compareBy, compareBy, first, ih later]

namespace Store

variable {s : Store} {plan : Plan} {p : Product} {relations : Flags} {field : String}

theorem get?_tags (flagged : relations.isSet "tags" = true) :
    (s.record relations p).get? "tags" = some (.arr ((s.tagsOf p).map Tag.toJson)) := by
  unfold record
  rw [if_pos flagged]
  cases relations.isSet "category" <;> rfl

-- On a field that is no product's own, records of any two products tie, unless it is the category.
theorem ties_record {key : OrderKey} (foreign : key.field ∉ Profile.product.scalars)
    (uncategorized : key.field = "category" → relations.isSet "category" = false)
    (p q : Product) : key.Ties (s.record relations p) (s.record relations q) := by
  unfold OrderKey.Ties
  by_cases tagged : key.field = "tags" ∧ relations.isSet "tags" = true
  · obtain ⟨named, flagged⟩ := tagged
    rw [named, get?_tags flagged, get?_tags flagged]
    rfl
  · have absent (p : Product) : key.field ∉ (s.record relations p).fields := by
      rw [mem_fields_record]
      rintro (own | ⟨attached, flagged⟩)
      · exact foreign own
      · simp only [Profile.product, List.mem_cons, List.not_mem_nil, or_false] at attached
        rcases attached with named | named
        · exact tagged ⟨named, named ▸ flagged⟩
        · rw [named, uncategorized named] at flagged
          cases flagged
    rw [Record.get?_of_not_mem_fields (absent p), Record.get?_of_not_mem_fields (absent q)]

end Store
end Catalog
