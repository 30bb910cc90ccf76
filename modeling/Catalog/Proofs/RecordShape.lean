import Catalog.Proofs.Pages
import Catalog.Proofs.Projection

set_option autoImplicit false

namespace Catalog

namespace Record

variable {r t : Record} {field : String}

theorem mem_fields_iff : field ∈ r.fields ↔ ∃ value, (field, value) ∈ r.members := by
  simp [fields]

theorem fields_sublist (part : r.members.Sublist t.members) : r.fields.Sublist t.fields :=
  part.map Prod.fst

theorem get?_of_not_mem_fields (absent : field ∉ r.fields) :
    r.get? field = none := by
  rw [get?, List.lookup_eq_none_iff]
  intro member inside
  have other : field ≠ member.1 := by
    rintro rfl
    exact absent (List.mem_map_of_mem inside)
  simpa using other

theorem get?_of_sublist (part : r.members.Sublist t.members) (nodup : t.fields.Nodup)
    (present : field ∈ r.fields) : r.get? field = t.get? field := by
  obtain ⟨value, member⟩ := mem_fields_iff.mp present
  have left : r.get? field = some value :=
    lookup_of_mem_of_nodup member (nodup.sublist (fields_sublist part))
  have whole : t.get? field = some value := lookup_of_mem_of_nodup (part.subset member) nodup
  rw [left, whole]

def Carries (r : Record) (profile : Profile) (relations : List String) : Prop :=
  ∀ field, field ∈ r.fields ↔
    field ∈ profile.scalars ∨ field ∈ profile.relations ∧ field ∈ relations

end Record

namespace Query

variable {profile : Profile} {pairs : List (String × String)}

end Query

namespace Plan

variable {profile : Profile} {pairs : List (String × String)} {plan : Plan}

end Plan

namespace Product

def ownRecord (p : Product) : Record := p.recordWith none none

end Product

namespace Store

variable {s : Store} {p : Product} {relations : Flags} {field : String}

def wholeRecord (s : Store) (p : Product) : Record :=
  p.recordWith (some (Json.ofOption Category.toJson (s.categoryOf p)))
    (some (.arr ((s.tagsOf p).map Tag.toJson)))

theorem nodup_wholeRecord (s : Store) (p : Product) : (s.wholeRecord p).fields.Nodup := by
  change List.Nodup ["category", "categoryId", "createdAt", "description", "detail",
    "discountPercent", "featured", "id", "image1", "image2", "name", "price", "stock", "tags",
    "updatedAt"]
  decide

theorem record_sublist_wholeRecord (relations : Flags) :
    (s.record relations p).members.Sublist (s.wholeRecord p).members := by
  unfold record wholeRecord Product.recordWith
  simp only
  refine ((List.Sublist.append ?_ (List.Sublist.refl _)).append ?_).append (List.Sublist.refl _)
  · split <;> simp
  · split <;> simp

theorem fields_record (relations : Flags) : (s.record relations p).fields =
    (if relations.isSet "category" then ["category"] else []) ++
      ["categoryId", "createdAt", "description", "detail", "discountPercent", "featured", "id",
        "image1", "image2", "name", "price", "stock"] ++
      (if relations.isSet "tags" then ["tags"] else []) ++ ["updatedAt"] := by
  unfold record Product.recordWith Record.fields
  split <;> split <;> rfl

theorem mem_fields_record : field ∈ (s.record relations p).fields ↔
    field ∈ Profile.product.scalars ∨
      field ∈ Profile.product.relations ∧ relations.isSet field = true := by
  rw [fields_record, Profile.product]
  simp only [List.mem_append, List.mem_ite_nil_right, List.mem_cons, List.not_mem_nil, or_false]
  grind

theorem get?_record_of_scalar (scalar : field ∈ Profile.product.scalars) :
    (s.record relations p).get? field = p.ownRecord.get? field := by
  have whole (flags : Flags) : (s.record flags p).get? field = (s.wholeRecord p).get? field :=
    Record.get?_of_sublist (record_sublist_wholeRecord flags) (nodup_wholeRecord s p)
      (mem_fields_record.mpr (.inl scalar))
  have own : s.record ∅ p = p.ownRecord := rfl
  rw [whole relations, ← whole ∅, own]

theorem carries_record {names : List String} (marks : relations.Marks names) :
    (s.record relations p).Carries .product names := by
  intro field
  rw [mem_fields_record, marks.isSet_iff]

end Store

theorem Swiper.carries_record (w : Swiper) (names : List String) :
    w.record.Carries .swiper names := by
  intro field
  have fields : w.record.fields = ["filePath", "id", "title"] := rfl
  rw [fields, Profile.swiper]
  simp only [List.mem_cons, List.not_mem_nil, or_false, false_and]
  grind

end Catalog
