import Catalog.Proofs.ListRoutes
import Catalog.Proofs.Matching
import Catalog.Proofs.RecordOrder
import Catalog.Proofs.StableSort

set_option autoImplicit false

namespace Catalog

structure FilterSet where
  priceRange : Option Interval := none
  stockRange : Option Interval := none
  categoryId : Option Int := none
  searchTerm : Option String := none
  featuredOnly : Bool := false

namespace FilterSet

structure Passes (filters : FilterSet) (p : Product) : Prop where
  price : ∀ range ∈ filters.priceRange, range.contains p.price = true
  stock : ∀ range ∈ filters.stockRange, ∃ n ∈ p.stock, range.contains (Binary64.ofInt n) = true
  category : ∀ id ∈ filters.categoryId, p.categoryId = some id
  search : ∀ needle ∈ filters.searchTerm, p.Mentions needle
  featured : filters.featuredOnly = true → p.featured = true

instance (filters : FilterSet) : DecidablePred filters.Passes := fun p =>
  decidable_of_iff
    ((∀ range ∈ filters.priceRange, range.contains p.price = true) ∧
      (∀ range ∈ filters.stockRange, ∃ n ∈ p.stock, range.contains (Binary64.ofInt n) = true) ∧
      (∀ id ∈ filters.categoryId, p.categoryId = some id) ∧
      (∀ needle ∈ filters.searchTerm, p.Mentions needle) ∧
      (filters.featuredOnly = true → p.featured = true))
    ⟨fun ⟨price, stock, category, search, featured⟩ => ⟨price, stock, category, search, featured⟩,
      fun passes =>
        ⟨passes.price, passes.stock, passes.category, passes.search, passes.featured⟩⟩

structure UnsetIn (filters : FilterSet) (plan : Plan) : Prop where
  priceRange : filters.priceRange = none ∨ plan.priceRange = none
  stockRange : filters.stockRange = none ∨ plan.stockRange = none
  categoryId : filters.categoryId = none ∨ plan.categoryId = none
  searchTerm : filters.searchTerm = none ∨ plan.searchTerm = none

end FilterSet

theorem forall_mem_or_iff {β : Type} {added own : Option β} (free : added = none ∨ own = none)
    (holds : β → Prop) :
    (∀ b ∈ added.or own, holds b) ↔ (∀ b ∈ own, holds b) ∧ ∀ b ∈ added, holds b := by
  rcases free with rfl | rfl <;> simp

namespace Plan

variable {plan : Plan}

def filterSet (plan : Plan) : FilterSet where
  priceRange := plan.priceRange
  stockRange := plan.stockRange
  categoryId := plan.categoryId
  searchTerm := plan.searchTerm
  featuredOnly := plan.featuredOnly

def narrow (plan : Plan) (filters : FilterSet) : Plan :=
  { plan with
    priceRange := filters.priceRange.or plan.priceRange
    stockRange := filters.stockRange.or plan.stockRange
    categoryId := filters.categoryId.or plan.categoryId
    searchTerm := filters.searchTerm.or plan.searchTerm
    featuredOnly := filters.featuredOnly || plan.featuredOnly }

theorem matchesProduct_iff_passes (p : Product) :
    plan.matchesProduct p = true ↔ plan.filterSet.Passes p := by
  have searched := searchMatches_texts_iff plan p
  have featured : (!plan.featuredOnly || p.featured) = true ↔
      (plan.featuredOnly = true → p.featured = true) := by
    cases plan.featuredOnly <;> simp
  simp only [matchesProduct, admits, Bool.and_eq_true, searched, featured, Option.all_eq_true,
    Option.any_eq_true, decide_eq_true_eq]
  constructor
  · rintro ⟨⟨⟨⟨featured, price⟩, stock⟩, category⟩, search⟩
    exact ⟨price, stock, category, search, featured⟩
  · rintro ⟨price, stock, category, search, featured⟩
    exact ⟨⟨⟨⟨featured, price⟩, stock⟩, category⟩, search⟩

theorem narrow_passes_iff {filters : FilterSet} (free : filters.UnsetIn plan) (p : Product) :
    (plan.narrow filters).filterSet.Passes p ↔ plan.filterSet.Passes p ∧ filters.Passes p := by
  have price := forall_mem_or_iff free.priceRange fun range => range.contains p.price = true
  have stock := forall_mem_or_iff free.stockRange fun range =>
    ∃ n ∈ p.stock, range.contains (Binary64.ofInt n) = true
  have category := forall_mem_or_iff free.categoryId fun id => p.categoryId = some id
  have search := forall_mem_or_iff free.searchTerm p.Mentions
  have featured : ((filters.featuredOnly || plan.featuredOnly) = true → p.featured = true) ↔
      (plan.featuredOnly = true → p.featured = true) ∧
        (filters.featuredOnly = true → p.featured = true) := by
    rw [Bool.or_eq_true, or_imp, and_comm]
  constructor
  · intro passes
    have prices := price.mp passes.price
    have stocks := stock.mp passes.stock
    have categories := category.mp passes.category
    have searches := search.mp passes.search
    have features := featured.mp passes.featured
    exact ⟨⟨prices.1, stocks.1, categories.1, searches.1, features.1⟩,
      prices.2, stocks.2, categories.2, searches.2, features.2⟩
  · rintro ⟨own, added⟩
    exact {
      price := price.mpr ⟨own.price, added.price⟩
      stock := stock.mpr ⟨own.stock, added.stock⟩
      category := category.mpr ⟨own.category, added.category⟩
      search := search.mpr ⟨own.search, added.search⟩
      featured := featured.mpr ⟨own.featured, added.featured⟩ }

end Plan

namespace Store

variable {s : Store} {plan : Plan}

def row (s : Store) (plan : Plan) (p : Product) : Record :=
  (s.record (plan.relations.getD ∅) p).project plan.projection

structure Lists (s : Store) (plan : Plan) (found : List Product) : Prop where
  perm : found.Perm (s.products.filter (plan.filterSet.Passes ·))
  records : s.findProducts plan = found.map (s.row plan)

def ranked (s : Store) (plan : Plan) (products : List Product) : List Product :=
  products.mergeSort fun p q => OrderKey.notAfter plan.order
    (s.record (plan.relations.getD ∅) p) (s.record (plan.relations.getD ∅) q)

theorem matching_eq_filter_passes (s : Store) (plan : Plan) :
    s.matching plan = s.products.filter (plan.filterSet.Passes ·) := by
  apply List.filter_congr
  intro p _
  rw [Bool.eq_iff_iff, Plan.matchesProduct_iff_passes, decide_eq_true_iff]

theorem map_record_ranked (products : List Product) :
    (s.ranked plan products).map (s.record (plan.relations.getD ∅)) =
      plan.sort (products.map (s.record (plan.relations.getD ∅))) :=
  List.map_mergeSort fun _ _ _ _ => rfl

theorem findProducts_eq_map_ranked (noOffset : plan.offset = none) (noLimit : plan.limit = none) :
    s.findProducts plan =
      (s.ranked plan (s.products.filter (plan.filterSet.Passes ·))).map (s.row plan) := by
  rw [findProducts, Plan.arrange_unpaged noOffset noLimit, matching_eq_filter_passes,
    ← map_record_ranked, List.map_map]
  rfl

theorem filter_ranked (keep : Product → Bool) (products : List Product) :
    (s.ranked plan products).filter keep = s.ranked plan (products.filter keep) := by
  apply StableSort.filter_mergeSort
  · intro p q r
    exact OrderKey.notAfter_trans _ _ _
  · intro p q
    exact OrderKey.notAfter_total _ _

theorem lists_ranked (noOffset : plan.offset = none) (noLimit : plan.limit = none) :
    s.Lists plan (s.ranked plan (s.products.filter (plan.filterSet.Passes ·))) :=
  ⟨List.mergeSort_perm _ _, findProducts_eq_map_ranked noOffset noLimit⟩

theorem findProducts_narrow (noOffset : plan.offset = none) (noLimit : plan.limit = none)
    {filters : FilterSet} (free : filters.UnsetIn plan) :
    s.findProducts (plan.narrow filters) =
      ((s.ranked plan (s.products.filter (plan.filterSet.Passes ·))).filter
        (filters.Passes ·)).map (s.row plan) := by
  have both : s.products.filter ((plan.narrow filters).filterSet.Passes ·) =
      (s.products.filter (plan.filterSet.Passes ·)).filter (filters.Passes ·) := by
    rw [List.filter_filter]
    apply List.filter_congr
    intro p _
    rw [Bool.eq_iff_iff, Bool.and_eq_true, decide_eq_true_iff, decide_eq_true_iff,
      decide_eq_true_iff, Plan.narrow_passes_iff free, and_comm]
  rw [filter_ranked, ← both]
  exact findProducts_eq_map_ranked noOffset noLimit

end Store

namespace Service

variable {s : Store} {pairs : Pairs}

theorem exists_plan_of_featuredProducts
    (answered : (get (.ofStore s) .featuredProducts pairs).status = 200) :
    ∃ plan, Plan.compile s.lookup .product (Params.ofPairs pairs) = .ok plan := by
  obtain ⟨value, given, -⟩ := ok_of_respond answered
  obtain ⟨plan, records, compiled, -⟩ := answerList_ok given
  exact ⟨plan, compiled⟩

end Service

namespace Store

theorem featuredOnly_passes_iff (p : Product) :
    ({ featuredOnly := true } : FilterSet).Passes p ↔ p.featured = true := by
  constructor
  · intro passes
    exact passes.featured rfl
  · intro featured
    exact ⟨by simp, by simp, by simp, by simp, fun _ => featured⟩

theorem findProducts_featured {s : Store} {plan : Plan} (noOffset : plan.offset = none)
    (noLimit : plan.limit = none) :
    s.findProducts plan.featured =
      ((s.ranked plan (s.products.filter (plan.filterSet.Passes ·))).filter
        (·.featured)).map (s.row plan) := by
  have free : ({ featuredOnly := true } : FilterSet).UnsetIn plan :=
    ⟨.inl rfl, .inl rfl, .inl rfl, .inl rfl⟩
  have narrowed : plan.featured = plan.narrow { featuredOnly := true } := rfl
  rw [narrowed, findProducts_narrow noOffset noLimit free]
  simp only [featuredOnly_passes_iff, Bool.decide_eq_true]

theorem added_filters_keep_order (s : Store) :
    (∀ plan : Plan, plan.offset = none → plan.limit = none →
      ∃ found, s.Lists plan found ∧ ∀ filters : FilterSet, filters.UnsetIn plan →
        s.findProducts (plan.narrow filters) =
          (found.filter (filters.Passes ·)).map (s.row plan)) ∧
    ∀ pairs, (Service.get (.ofStore s) .featuredProducts pairs).status = 200 →
      Query.count? (Params.ofPairs pairs) "offset" = none →
      Query.count? (Params.ofPairs pairs) "limit" = none →
      ∃ plan found, Plan.compile s.lookup .product (Params.ofPairs pairs) = .ok plan ∧
        s.Lists plan found ∧
        Service.get (.ofStore s) .products pairs =
          .ofJson 200 (Answer.list (found.map (s.row plan))) ∧
        Service.get (.ofStore s) .featuredProducts pairs =
          .ofJson 200 (Answer.list ((found.filter (·.featured)).map (s.row plan))) := by
  constructor
  · intro plan noOffset noLimit
    exact ⟨_, lists_ranked noOffset noLimit, fun filters free =>
      findProducts_narrow noOffset noLimit free⟩
  · intro pairs answered noOffset noLimit
    obtain ⟨plan, compiled⟩ := Service.exists_plan_of_featuredProducts answered
    have parts := Plan.compiledFrom compiled
    rw [← parts.offset] at noOffset
    rw [← parts.limit] at noLimit
    have listed := lists_ranked (s := s) noOffset noLimit
    refine ⟨plan, _, compiled, listed, ?_, ?_⟩
    · rw [Service.get_products compiled, listed.records]
    · rw [Service.get_featuredProducts compiled, findProducts_featured noOffset noLimit]

def byPrice : Plan := { order := [⟨"price", .ascending⟩] }

def cheapRed : FilterSet :=
  { priceRange := some ⟨none, some ⟨.ofNat 18, true⟩⟩, searchTerm := some "red" }

theorem added_filters_keep_order_shoeShop :
    (byPrice.offset = none ∧ byPrice.limit = none ∧ cheapRed.UnsetIn byPrice ∧
      ∃ found, shoeShop.Lists byPrice found ∧ shoeShop.findProducts (byPrice.narrow cheapRed) =
        (found.filter (cheapRed.Passes ·)).map (shoeShop.row byPrice)) ∧
    (Service.get (.ofStore shoeShop) .featuredProducts Service.shelfQuery).status = 200 ∧
      Query.count? (Params.ofPairs Service.shelfQuery) "offset" = none ∧
      Query.count? (Params.ofPairs Service.shelfQuery) "limit" = none ∧
      ∃ plan found,
        Plan.compile shoeShop.lookup .product (Params.ofPairs Service.shelfQuery) = .ok plan ∧
        shoeShop.Lists plan found ∧
        Service.get (.ofStore shoeShop) .products Service.shelfQuery =
          .ofJson 200 (Answer.list (found.map (shoeShop.row plan))) ∧
        Service.get (.ofStore shoeShop) .featuredProducts Service.shelfQuery =
          .ofJson 200 (Answer.list ((found.filter (·.featured)).map (shoeShop.row plan))) := by
  obtain ⟨plans, queries⟩ := added_filters_keep_order shoeShop
  obtain ⟨found, listed, narrowed⟩ := plans byPrice rfl rfl
  have free : cheapRed.UnsetIn byPrice := ⟨.inr rfl, .inr rfl, .inr rfl, .inr rfl⟩
  have answered :
      (Service.get (.ofStore shoeShop) .featuredProducts Service.shelfQuery).status = 200 := by
    decide +kernel
  have noOffset : Query.count? (Params.ofPairs Service.shelfQuery) "offset" = none := by
    decide +kernel
  have noLimit : Query.count? (Params.ofPairs Service.shelfQuery) "limit" = none := by
    decide +kernel
  exact ⟨⟨rfl, rfl, free, found, listed, narrowed cheapRed free⟩, answered, noOffset, noLimit,
    queries Service.shelfQuery answered noOffset noLimit⟩

end Store
end Catalog
