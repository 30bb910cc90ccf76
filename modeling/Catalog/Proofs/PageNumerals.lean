import Catalog.Proofs.Counting
import Catalog.Proofs.Identifiers
import Catalog.Proofs.Pages

set_option autoImplicit false

namespace Catalog

structure IsNumeral (s : String) : Prop where
  nonempty : s ≠ ""
  digits : ∀ c ∈ s.toList, Numeral.isDigit c = true

def numeralValue (s : String) : Nat := Numeral.ofDigits s.toList

namespace IsNumeral

variable {s : String}

theorem trim (numeral : IsNumeral s) : Text.trim s = s := by
  apply Text.trim_of_visible
  intro c member
  have bounds := Numeral.isDigit_iff.mp (numeral.digits c member)
  simp [Text.isBlank]
  omega

theorem count? (numeral : IsNumeral s) :
    Numeral.count? s = if numeralValue s < 2 ^ 64 then some (numeralValue s) else none := by
  have digits : (!s.toList.isEmpty && s.toList.all Numeral.isDigit) = true := by
    rw [Bool.and_eq_true]
    exact ⟨by simpa using numeral.nonempty, List.all_eq_true.mpr numeral.digits⟩
  unfold Numeral.count?
  extract_lets cs
  have unsigned : cs = s.toList := by
    unfold cs
    split
    next rest signed =>
      have digit := numeral.digits '+' (signed ▸ List.mem_cons_self)
      exact absurd digit (by decide)
    next => rfl
  rw [unsigned, digits, Bool.true_and]
  exact if_congr decide_eq_true_iff rfl rfl

end IsNumeral

def pagePairs (offset limit : String) : Service.Pairs := [("offset", offset), ("limit", limit)]

def Unpaged (pairs : Service.Pairs) : Prop := ∀ pair ∈ pairs, pair.1 ∉ ["offset", "limit"]

section Requests

variable {pairs : Service.Pairs} {a b key : String}

theorem Unpaged.given (unpaged : Unpaged pairs) (paging : key ∈ ["offset", "limit"]) :
    Params.given pairs key = [] := by
  have none : pairs.filter (·.1 = key) = [] := by
    rw [List.filter_eq_nil_iff]
    intro pair member same
    exact unpaged pair member (by simpa [of_decide_eq_true same] using paging)
  rw [Params.given, none]
  rfl

theorem terms_append_pagePairs (other : key ∉ ["offset", "limit"]) :
    (Params.ofPairs (pairs ++ pagePairs a b)).terms key = (Params.ofPairs pairs).terms key := by
  obtain ⟨noOffset, noLimit⟩ : "offset" ≠ key ∧ "limit" ≠ key := by
    simpa [eq_comm] using other
  rw [Params.terms_ofPairs, Params.terms_ofPairs, Params.given_append]
  simp [pagePairs, Params.given, noOffset, noLimit, Text.nonBlank]

theorem IsNumeral.nonBlank (numeral : IsNumeral a) : Text.nonBlank [a] = [a] := by
  simp [Text.nonBlank, numeral.trim, numeral.nonempty]

theorem counts_append_pagePairs (unpaged : Unpaged pairs) (offset : IsNumeral a)
    (limit : IsNumeral b) :
    Query.count? (Params.ofPairs (pairs ++ pagePairs a b)) "offset" = Numeral.count? a ∧
      Query.count? (Params.ofPairs (pairs ++ pagePairs a b)) "limit" = Numeral.count? b := by
  simp only [Query.count?, Params.text?_ofPairs, Params.given_append]
  rw [unpaged.given (by decide), unpaged.given (by decide)]
  simp [pagePairs, Params.given, offset.nonBlank, limit.nonBlank]

end Requests

namespace Plan

variable {lookup : Lookup} {profile : Profile} {pairs : Service.Pairs} {a b : String} {whole : Plan}

def paged (plan : Plan) (offset limit : String) : Plan :=
  { plan with offset := Numeral.count? offset, limit := Numeral.count? limit }

theorem unpaged_paged (noOffset : whole.offset = none) (noLimit : whole.limit = none) :
    (whole.paged a b).unpaged = whole := by
  cases whole
  cases noOffset
  cases noLimit
  rfl

theorem CompiledFrom.unpaged (compiled : whole.CompiledFrom lookup profile (Params.ofPairs pairs))
    (unpaged : Unpaged pairs) : whole.offset = none ∧ whole.limit = none := by
  rw [compiled.offset, compiled.limit]
  constructor <;>
    exact Query.count?_of_blank (by rw [Params.terms_ofPairs, unpaged.given (by decide)])

theorem not_paging_of_checked {key : String} (checked : key ∈ Query.checkedKeys profile) :
    key ∉ ["offset", "limit"] := by
  have apart : ∀ key ∈ Query.checkedKeys profile, key ∉ ["offset", "limit"] := by
    unfold Query.checkedKeys
    cases profile.filterable <;> decide
  exact apart key checked

theorem exists_whole {plan : Plan}
    (compiled : compile lookup profile (Params.ofPairs (pairs ++ pagePairs a b)) = .ok plan) :
    ∃ whole, compile lookup profile (Params.ofPairs pairs) = .ok whole :=
  exists_compile_congr (fun _ checked => terms_append_pagePairs (not_paging_of_checked checked))
    compiled

theorem compile_append_pagePairs (unpaged : Unpaged pairs) (offset : IsNumeral a)
    (limit : IsNumeral b) (compiled : compile lookup profile (Params.ofPairs pairs) = .ok whole) :
    compile lookup profile (Params.ofPairs (pairs ++ pagePairs a b)) =
      .ok (whole.paged a b) := by
  obtain ⟨plan, accepted⟩ := exists_compile_congr
    (fun _ checked => (terms_append_pagePairs (not_paging_of_checked checked)).symm) compiled
  have same {key : String} (other : key ∉ ["offset", "limit"]) :
      (Params.ofPairs (pairs ++ pagePairs a b)).terms key = (Params.ofPairs pairs).terms key :=
    terms_append_pagePairs other
  have parts := Plan.compiledFrom accepted
  have wholeParts := Plan.compiledFrom compiled
  have counts := counts_append_pagePairs unpaged offset limit
  have projects := parts.projects_eq wholeParts (same (by decide)) (same (by decide))
  rw [accepted]
  apply congrArg
  unfold paged
  rw [Plan.mk.injEq]
  exact ⟨projects.1, projects.2, parts.order_eq wholeParts (same (by decide)),
    parts.offset.trans counts.1, parts.limit.trans counts.2,
    parts.priceRange_eq wholeParts (same (by decide)),
    parts.stockRange_eq wholeParts (same (by decide)),
    parts.categoryId_eq wholeParts (same (by decide)),
    parts.searchTerm_eq wholeParts (same (by decide)) (same (by decide)),
    parts.featuredOnly_eq wholeParts⟩

-- A limit that does not fit is as good as none, for no listing is longer.
theorem page_numerals {α : Type} (whole : Plan) (offset : IsNumeral a) (limit : IsNumeral b)
    (fits : numeralValue a < 2 ^ 64) {rows : List α} (few : rows.length < 2 ^ 64) :
    (whole.paged a b).page rows =
      (rows.drop (numeralValue a)).take (numeralValue b) := by
  unfold page paged
  simp only [offset.count?, limit.count?, if_pos fits, Option.getD_some]
  by_cases short : numeralValue b < 2 ^ 64
  · rw [if_pos short]
  · rw [if_neg short]
    symm
    apply List.take_of_length_le
    rw [List.length_drop]
    omega

end Plan

namespace Store

variable {s : Store} {a b : String}

theorem length_findProducts_le (s : Store) (plan : Plan) :
    (s.findProducts plan).length ≤ s.products.length := by
  rw [length_findProducts]
  have counted : s.countProducts plan ≤ s.products.length := List.length_filter_le _ _
  unfold Plan.pageLength
  cases plan.limit <;> dsimp only <;> omega

theorem findProducts_numerals (few : s.products.length < 2 ^ 64) (offset : IsNumeral a)
    (limit : IsNumeral b) (fits : numeralValue a < 2 ^ 64) {whole : Plan}
    (unpaged : whole.offset = none ∧ whole.limit = none) :
    s.findProducts (whole.paged a b) =
      ((s.findProducts whole).drop (numeralValue a)).take (numeralValue b) := by
  have listed := s.length_findProducts_le whole
  rw [← whole.page_numerals offset limit fits (by omega)]
  have cut := (whole.paged a b).arrange_eq_page
    ((s.matching whole).map (s.record (whole.relations.getD ∅)))
  rwa [Plan.unpaged_paged unpaged.1 unpaged.2] at cut

structure PagesByNumerals (s : Store) (a b : String) : Prop where
  bare : Plan.compile s.lookup .product (Params.ofPairs []) = .ok .unfiltered
  cut : ∀ pairs whole, Unpaged pairs →
    Plan.compile s.lookup .product (Params.ofPairs pairs) = .ok whole →
    ∃ plan, Plan.compile s.lookup .product (Params.ofPairs (pairs ++ pagePairs a b)) = .ok plan ∧
      s.findProducts plan =
        ((s.findProducts whole).drop (numeralValue a)).take (numeralValue b)
  shrink : ∀ pairs c plan later, Unpaged pairs → IsNumeral c →
    numeralValue a ≤ numeralValue c → numeralValue c < 2 ^ 64 →
    Plan.compile s.lookup .product (Params.ofPairs (pairs ++ pagePairs a b)) = .ok plan →
    Plan.compile s.lookup .product (Params.ofPairs (pairs ++ pagePairs c b)) = .ok later →
    (s.findProducts later).length ≤ (s.findProducts plan).length

theorem numeric_pages_cut_listing (few : s.products.length < 2 ^ 64) (offset : IsNumeral a)
    (limit : IsNumeral b) (fits : numeralValue a < 2 ^ 64) : s.PagesByNumerals a b := by
  refine ⟨rfl, ?_, ?_⟩
  · intro pairs whole unpaged compiled
    exact ⟨_, Plan.compile_append_pagePairs unpaged offset limit compiled,
      findProducts_numerals few offset limit fits
        ((Plan.compiledFrom compiled).unpaged unpaged)⟩
  · intro pairs c plan later unpaged offset' larger fits' accepted accepted'
    obtain ⟨whole, compiled⟩ := Plan.exists_whole accepted
    have blank := (Plan.compiledFrom compiled).unpaged unpaged
    rw [Plan.compile_append_pagePairs unpaged offset limit compiled] at accepted
    rw [Plan.compile_append_pagePairs unpaged offset' limit compiled] at accepted'
    cases accepted
    cases accepted'
    rw [findProducts_numerals few offset limit fits blank,
      findProducts_numerals few offset' limit fits' blank]
    simp only [List.length_take, List.length_drop]
    omega

theorem numeric_pages_cut_listing_shoeShop :
    shoeShop.products.length < 2 ^ 64 ∧ IsNumeral "01" ∧ IsNumeral "18446744073709551616" ∧
      numeralValue "01" < 2 ^ 64 ∧ shoeShop.PagesByNumerals "01" "18446744073709551616" := by
  have offset : IsNumeral "01" := ⟨by decide, List.all_eq_true.mp (by decide)⟩
  have limit : IsNumeral "18446744073709551616" := ⟨by decide, List.all_eq_true.mp (by decide)⟩
  exact ⟨by decide, offset, limit, by decide,
    numeric_pages_cut_listing (by decide) offset limit (by decide)⟩

theorem large_offset_dropped :
    shoeShop.products.length < 2 ^ 64 ∧ IsNumeral "18446744073709551616" ∧ IsNumeral "5" ∧
      ∃ plan, Plan.compile shoeShop.lookup .product
          (Params.ofPairs (pagePairs "18446744073709551616" "5")) = .ok plan ∧
        (shoeShop.findProducts plan).length = 2 ∧
        ((shoeShop.findProducts .unfiltered).drop (numeralValue "18446744073709551616")).take
          (numeralValue "5") = [] := by
  have offset : IsNumeral "18446744073709551616" := ⟨by decide, List.all_eq_true.mp (by decide)⟩
  have limit : IsNumeral "5" := ⟨by decide, List.all_eq_true.mp (by decide)⟩
  have bare : Plan.compile shoeShop.lookup .product (Params.ofPairs []) = .ok .unfiltered := rfl
  refine ⟨by decide, offset, limit, _,
    Plan.compile_append_pagePairs (List.forall_mem_nil _) offset limit bare, ?_, ?_⟩
  · rw [length_findProducts]
    decide
  · rw [List.take_eq_nil_iff, List.drop_eq_nil_iff, length_findProducts]
    decide

end Store
end Catalog
