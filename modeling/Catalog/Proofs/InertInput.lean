import Catalog.Proofs.Pages
import Catalog.Proofs.ReadKeys
import Mathlib.Logic.Relation

set_option autoImplicit false

namespace Catalog

namespace Text

theorem trim_pad {left right : String} (value : String)
    (blankLeft : ∀ c ∈ left.toList, isBlank c = true)
    (blankRight : ∀ c ∈ right.toList, isBlank c = true) :
    trim (left ++ value ++ right) = trim value := by
  rw [trim, String.toList_append, String.toList_append, trimChars_blank_append _ blankRight,
    trimChars_append_blank _ blankLeft, trim]

theorem nonBlank_of_blank {value : String} (blank : ∀ c ∈ value.toList, isBlank c = true) :
    nonBlank [value] = [] := by
  simp [nonBlank, trim_eq_empty_iff.mpr blank]

theorem nonBlank_pad {left right : String} (value : String)
    (blankLeft : ∀ c ∈ left.toList, isBlank c = true)
    (blankRight : ∀ c ∈ right.toList, isBlank c = true) :
    nonBlank [left ++ value ++ right] = nonBlank [value] := by
  simp [nonBlank, trim_pad value blankLeft blankRight]

end Text

namespace Query

variable {profile : Profile} {key : String}

theorem known_of_mem_readKeys (read : key ∈ readKeys profile) :
    key ∈ presentationKeys ++ filterKeys := by
  rcases List.mem_append.mp read with presented | filtered
  · exact List.mem_append_left _ presented
  · exact List.mem_append_right _ (List.mem_ite_nil_right.mp filtered).2

theorem not_mem_readKeys_of_filter (bare : profile.filterable = false) (filter : key ∈ filterKeys) :
    key ∉ readKeys profile := by
  simpa [readKeys, bare] using not_presentationKey_of_filter filter

end Query

namespace Params

variable {profile : Profile} {pairs edited : List (String × String)}

-- Unknown keys, blank values, and filters where there are none.
inductive Idle (profile : Profile) : String × String → Prop
  | unknown {key value : String} (notAKey : key ∉ Query.presentationKeys ++ Query.filterKeys) :
      Idle profile (key, value)
  | blank {key value : String} (blank : ∀ c ∈ value.toList, Text.isBlank c = true) :
      Idle profile (key, value)
  | unfiltered {key value : String} (bare : profile.filterable = false)
      (filter : key ∈ Query.filterKeys) : Idle profile (key, value)

inductive InertEdit (profile : Profile) :
    List (String × String) → List (String × String) → Prop
  | insert (before after : List (String × String)) {pair : String × String}
      (idle : Idle profile pair) : InertEdit profile (before ++ after) (before ++ pair :: after)
  | pad (before after : List (String × String)) (key value : String) {left right : String}
      (blankLeft : ∀ c ∈ left.toList, Text.isBlank c = true)
      (blankRight : ∀ c ∈ right.toList, Text.isBlank c = true) :
      InertEdit profile (before ++ (key, value) :: after)
        (before ++ (key, left ++ value ++ right) :: after)
  | unpad (before after : List (String × String)) (key value : String) {left right : String}
      (blankLeft : ∀ c ∈ left.toList, Text.isBlank c = true)
      (blankRight : ∀ c ∈ right.toList, Text.isBlank c = true) :
      InertEdit profile (before ++ (key, left ++ value ++ right) :: after)
        (before ++ (key, value) :: after)
  | reorder {pairs edited : List (String × String)} (perm : edited.Perm pairs)
      (inOrder : ∀ key, edited.filter (·.1 = key) = pairs.filter (·.1 = key)) :
      InertEdit profile pairs edited

theorem Idle.given_eq_nil {pair : String × String} (idle : Idle profile pair) {key : String}
    (read : key ∈ Query.readKeys profile) : given [pair] key = [] := by
  rw [given_singleton]
  cases idle with
  | @unknown k value notAKey =>
    have other : k ≠ key := by
      rintro rfl
      exact notAKey (Query.known_of_mem_readKeys read)
    exact if_neg other
  | blank blank => rw [Text.nonBlank_of_blank blank, ite_self]
  | @unfiltered k value bare filter =>
    have other : k ≠ key := by
      rintro rfl
      exact Query.not_mem_readKeys_of_filter bare filter read
    exact if_neg other

theorem given_pad (key value : String) {left right : String}
    (blankLeft : ∀ c ∈ left.toList, Text.isBlank c = true)
    (blankRight : ∀ c ∈ right.toList, Text.isBlank c = true) (asked : String) :
    given [(key, left ++ value ++ right)] asked = given [(key, value)] asked := by
  rw [given_singleton, given_singleton, Text.nonBlank_pad value blankLeft blankRight]

theorem given_middle {middle middle' : List (String × String)} {key : String}
    (same : given middle' key = given middle key) (before after : List (String × String)) :
    given (before ++ (middle' ++ after)) key = given (before ++ (middle ++ after)) key := by
  rw [given_append, given_append, given_append, given_append, same]

theorem InertEdit.given_eq (edit : InertEdit profile pairs edited) {key : String}
    (read : key ∈ Query.readKeys profile) : given edited key = given pairs key := by
  cases edit with
  | insert before after idle =>
    have quiet : given [_] key = given [] key := idle.given_eq_nil read
    exact given_middle quiet before after
  | pad before after k value blankLeft blankRight =>
    exact given_middle (given_pad k value blankLeft blankRight key) before after
  | unpad before after k value blankLeft blankRight =>
    exact given_middle (given_pad k value blankLeft blankRight key).symm before after
  | reorder perm inOrder => rw [given, inOrder key, given]

theorem given_of_inertEdits (edits : Relation.ReflTransGen (InertEdit profile) pairs edited)
    {key : String} (read : key ∈ Query.readKeys profile) : given edited key = given pairs key := by
  induction edits with
  | refl => rfl
  | tail earlier edit ih => exact (edit.given_eq read).trans ih

end Params

namespace Plan

theorem compile_of_inertEdits {profile : Profile} {pairs edited : List (String × String)}
    (edits : Relation.ReflTransGen (Params.InertEdit profile) pairs edited) (lookup : Lookup) :
    compile lookup profile (Params.ofPairs edited) =
      compile lookup profile (Params.ofPairs pairs) := by
  apply compileWith_congr
  intro key read
  rw [Params.terms_ofPairs, Params.terms_ofPairs, Params.given_of_inertEdits edits read]

def plainBanners : List (String × String) := [("select", "title"), ("order_by", "id.desc")]

def noisyBanners : List (String × String) :=
  [("price", "cheap"), ("order_by", "id.desc"), ("select", "\t\u2003"), ("utm", "mail"),
    ("select", " title\u00a0")]

theorem compile_of_inertEdits_banners :
    Relation.ReflTransGen (Params.InertEdit .swiper) plainBanners noisyBanners ∧
      compile Store.shoeShop.lookup .swiper (Params.ofPairs noisyBanners) =
        compile Store.shoeShop.lookup .swiper (Params.ofPairs plainBanners) := by
  have padding : " " ++ "title" ++ "\u00a0" = " title\u00a0" := by decide
  have padded : Params.InertEdit .swiper plainBanners
      [("select", " title\u00a0"), ("order_by", "id.desc")] := by
    rw [← padding]
    exact .pad [] [("order_by", "id.desc")] "select" "title" (List.all_eq_true.mp (by decide))
      (List.all_eq_true.mp (by decide))
  have turned : Params.InertEdit .swiper [("select", " title\u00a0"), ("order_by", "id.desc")]
      [("order_by", "id.desc"), ("select", " title\u00a0")] := by
    refine .reorder (.swap _ _ _) ?_
    intro key
    by_cases selects : "select" = key
    · simp [← selects]
    · simp [List.filter_cons, selects]
  have priced : Params.InertEdit .swiper [("order_by", "id.desc"), ("select", " title\u00a0")]
      [("price", "cheap"), ("order_by", "id.desc"), ("select", " title\u00a0")] :=
    .insert [] _ (.unfiltered rfl (by decide))
  have blanked : Params.InertEdit .swiper
      [("price", "cheap"), ("order_by", "id.desc"), ("select", " title\u00a0")]
      [("price", "cheap"), ("order_by", "id.desc"), ("select", "\t\u2003"),
        ("select", " title\u00a0")] :=
    .insert [("price", "cheap"), ("order_by", "id.desc")] _
      (.blank (List.all_eq_true.mp (by decide)))
  have marked : Params.InertEdit .swiper
      [("price", "cheap"), ("order_by", "id.desc"), ("select", "\t\u2003"),
        ("select", " title\u00a0")]
      [("price", "cheap"), ("order_by", "id.desc"), ("select", "\t\u2003"), ("utm", "mail"),
        ("select", " title\u00a0")] :=
    .insert [("price", "cheap"), ("order_by", "id.desc"), ("select", "\t\u2003")] _
      (.unknown (by decide))
  have edits : Relation.ReflTransGen (Params.InertEdit .swiper) plainBanners noisyBanners :=
    .head padded <| .head turned <| .head priced <| .head blanked <| .single marked
  exact ⟨edits, compile_of_inertEdits edits Store.shoeShop.lookup⟩

end Plan
end Catalog
