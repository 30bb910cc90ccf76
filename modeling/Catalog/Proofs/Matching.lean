import Catalog.Proofs.Compilation
import Catalog.Proofs.Pages
import Catalog.Proofs.Parameters
import Catalog.Proofs.Ranges
import Mathlib.Data.List.Infix

set_option autoImplicit false

namespace Catalog

theorem Text.occursIn_iff {needle cs : List Char} : occursIn needle cs = true ↔ needle <:+: cs := by
  induction cs with
  | nil => simp [occursIn]
  | cons c rest ih =>
    rw [occursIn, Bool.or_eq_true, List.isPrefixOf_iff_prefix, ih, List.infix_cons_iff]

def Text.Mentions (text needle : String) : Prop :=
  (lower needle).toList <:+: (lower text).toList

theorem Text.contains_lower_iff {text needle : String} :
    contains (lower text) (lower needle) = true ↔ Mentions text needle :=
  occursIn_iff

def Product.Mentions (p : Product) (needle : String) : Prop :=
  Text.Mentions p.name needle ∨ Text.Mentions p.description needle ∨
    ∃ detail ∈ p.detail, Text.Mentions detail needle

theorem Product.any_texts_iff {p : Product} {f : String → Bool} :
    (p.texts.any fun text? => text?.any f) = true ↔
      f p.name = true ∨ f p.description = true ∨ ∃ detail ∈ p.detail, f detail = true := by
  cases given : p.detail <;> simp [Product.texts, Profile.product, Product.text?, given]

namespace Store

def FirstNamed (s : Store) (name : String) (c : Category) : Prop :=
  ∃ before after, s.categories = before ++ c :: after ∧ c.name = name ∧
    ∀ earlier ∈ before, earlier.name ≠ name

theorem find?_eq_some_iff {s : Store} {name : String} {c : Category} :
    s.categories.find? (·.name = name) = some c ↔ s.FirstNamed name c := by
  rw [List.find?_eq_some_iff_append, FirstNamed]
  simp only [decide_eq_true_eq, Bool.not_eq_true', decide_eq_false_iff_not]
  constructor
  · rintro ⟨named, before, after, split, others⟩
    exact ⟨before, after, split, named, others⟩
  · rintro ⟨before, after, split, named, others⟩
    exact ⟨named, before, after, split, others⟩

theorem lookup_id_eq_ok {s : Store} {name : String} {id : Int} :
    (s.lookup name).id = .ok id ↔ ∃ c, s.FirstNamed name c ∧ c.id = id := by
  simp only [lookup, Lookup.ofCategories, ← find?_eq_some_iff]
  cases s.categories.find? (·.name = name) <;> simp [LookupAnswer.id]

structure Answers (s : Store) (pairs : List (String × String)) (p : Product) : Prop where
  price : ∀ term ∈ Params.given pairs "price", RangeTerm.Admits term p.price
  stock : Params.given pairs "stock" ≠ [] → ∃ n ∈ p.stock,
    ∀ term ∈ Params.given pairs "stock", RangeTerm.Admits term (Binary64.ofInt n)
  category : ∀ name ∈ (Params.given pairs "category").head?,
    ∃ c, s.FirstNamed name c ∧ p.categoryId = some c.id
  search : ∀ needle ∈ (Params.given pairs "search" ++ Params.given pairs "q").head?,
    p.Mentions needle

instance (term : String) (x : Binary64) : Decidable (RangeTerm.Admits term x) :=
  decidable_of_iff ((RangeTerm.read? term).any fun t => t.comparison.holds x t.value)
    (by simp [RangeTerm.Admits, Option.any_eq_true])

instance (p : Product) (needle : String) : Decidable (p.Mentions needle) :=
  inferInstanceAs (Decidable ((Text.lower needle).toList <:+: (Text.lower p.name).toList ∨
    (Text.lower needle).toList <:+: (Text.lower p.description).toList ∨
      ∃ detail ∈ p.detail, (Text.lower needle).toList <:+: (Text.lower detail).toList))

instance (s : Store) (name : String) (id : Option Int) :
    Decidable (∃ c, s.FirstNamed name c ∧ id = some c.id) :=
  decidable_of_iff ((s.categories.find? (·.name = name)).any fun c => id = some c.id)
    (by simp [← find?_eq_some_iff, Option.any_eq_true])

instance (s : Store) (pairs : List (String × String)) : DecidablePred (s.Answers pairs) := fun p =>
  decidable_of_iff
    ((∀ term ∈ Params.given pairs "price", RangeTerm.Admits term p.price) ∧
      (Params.given pairs "stock" ≠ [] → ∃ n ∈ p.stock,
        ∀ term ∈ Params.given pairs "stock", RangeTerm.Admits term (Binary64.ofInt n)) ∧
      (∀ name ∈ (Params.given pairs "category").head?,
        ∃ c, s.FirstNamed name c ∧ p.categoryId = some c.id) ∧
      ∀ needle ∈ (Params.given pairs "search" ++ Params.given pairs "q").head?, p.Mentions needle)
    ⟨fun ⟨price, stock, category, search⟩ => ⟨price, stock, category, search⟩,
      fun answers => ⟨answers.price, answers.stock, answers.category, answers.search⟩⟩

end Store

theorem Query.all_contains_range?_iff {field : RangeField} {params : Params}
    {range : Option Interval} (ranged : Query.range? field params = .ok range) (x : Binary64) :
    (range.all fun i => i.contains x) = true ↔
      ∀ term ∈ params.terms field.name, RangeTerm.Admits term x := by
  have parts := Query.range?_ok ranged
  cases range with
  | none => simp [show params.terms field.name = [] from parts]
  | some i => exact RangeField.contains_interval_iff parts.2 x

-- A product without a number has no place in any interval, not even in one without bounds.
theorem Query.all_any_contains_range?_iff {field : RangeField} {params : Params}
    {range : Option Interval} (ranged : Query.range? field params = .ok range)
    (number : Option Int) :
    (range.all fun i => number.any fun n => i.contains (Binary64.ofInt n)) = true ↔
      (params.terms field.name ≠ [] → ∃ n ∈ number,
        ∀ term ∈ params.terms field.name, RangeTerm.Admits term (Binary64.ofInt n)) := by
  have parts := Query.range?_ok ranged
  cases range with
  | none => simp [show params.terms field.name = [] from parts]
  | some i =>
    obtain ⟨given, accepted⟩ := parts
    cases number with
    | none => simp [given]
    | some n => simp [given, RangeField.contains_interval_iff accepted]

theorem Query.searchTerm?_ofPairs (pairs : List (String × String)) :
    Query.searchTerm? (Params.ofPairs pairs) =
      (Params.given pairs "search" ++ Params.given pairs "q").head? := by
  rw [Query.searchTerm?, Params.text?_ofPairs, Params.text?_ofPairs, List.head?_append]

namespace Plan

variable {s : Store} {pairs : List (String × String)} {plan : Plan}

theorem searchMatches_texts_iff (plan : Plan) (p : Product) :
    plan.searchMatches p.texts = true ↔
      ∀ needle ∈ plan.searchTerm, p.Mentions needle := by
  unfold searchMatches
  cases plan.searchTerm with
  | none => simp
  | some needle =>
    simp only [Product.any_texts_iff, Text.contains_lower_iff, Option.mem_some, forall_eq']
    rfl

theorem categoryId_all_iff {id : Option Int} (p : Product)
    (resolved : s.lookup.Resolves (Params.given pairs "category").head? id) :
    (id.all fun id => decide (p.categoryId = some id)) = true ↔
      ∀ name ∈ (Params.given pairs "category").head?,
        ∃ c, s.FirstNamed name c ∧ p.categoryId = some c.id := by
  cases asked : (Params.given pairs "category").head? with
  | none =>
    rw [asked] at resolved
    rw [show id = none from resolved]
    simp
  | some name =>
    rw [asked] at resolved
    obtain ⟨found, answered, rfl⟩ := resolved
    simp only [Option.all_some, decide_eq_true_eq, Option.mem_some, forall_eq']
    constructor
    · intro same
      obtain ⟨c, first, rfl⟩ := Store.lookup_id_eq_ok.mp answered
      exact ⟨c, first, same⟩
    · rintro ⟨c, first, same⟩
      have again := Store.lookup_id_eq_ok.mpr ⟨c, first, rfl⟩
      rw [answered] at again
      rw [same, Except.ok.inj again]

theorem matchesProduct_iff
    (compiled : Plan.compile s.lookup .product (Params.ofPairs pairs) = .ok plan) (p : Product) :
    plan.matchesProduct p = true ↔ s.Answers pairs p := by
  have parts := compiledFrom compiled
  have filters := parts.filters rfl
  have priced := Query.all_contains_range?_iff filters.priceRange p.price
  have stocked := Query.all_any_contains_range?_iff filters.stockRange p.stock
  have searched := searchMatches_texts_iff plan p
  have resolved := filters.categoryId
  rw [Params.text?_ofPairs] at resolved
  have categorized := categoryId_all_iff p resolved
  rw [filters.searchTerm, Query.searchTerm?_ofPairs] at searched
  rw [Params.terms_ofPairs] at priced stocked
  simp only [matchesProduct, admits, parts.featuredOnly, Bool.not_false, Bool.true_or,
    Bool.true_and, Bool.and_eq_true, priced, stocked, categorized, searched]
  constructor
  · rintro ⟨⟨⟨price, stock⟩, category⟩, search⟩
    exact ⟨price, stock, category, search⟩
  · rintro ⟨price, stock, category, search⟩
    exact ⟨⟨⟨price, stock⟩, category⟩, search⟩

end Plan

namespace Store

theorem findProducts_perm_answers {s : Store} {pairs : List (String × String)} {plan : Plan}
    (compiled : Plan.compile s.lookup .product (Params.ofPairs pairs) = .ok plan)
    (noOffset : plan.offset = none) (noLimit : plan.limit = none) :
    (s.findProducts plan).Perm ((s.products.filter (s.Answers pairs ·)).map fun p =>
      (s.record (plan.relations.getD ∅) p).project plan.projection) := by
  have rows : s.matching plan = s.products.filter (s.Answers pairs ·) := by
    rw [matching]
    refine List.filter_congr ?_
    intro p _
    rw [Bool.eq_iff_iff, Plan.matchesProduct_iff compiled p, decide_eq_true_iff]
  rw [findProducts, Plan.arrange_unpaged noOffset noLimit, ← rows]
  refine ((List.mergeSort_perm _ _).map _).trans ?_
  rw [List.map_map]
  rfl

theorem findProducts_perm_answers_shoeShop :
    ∃ plan, Plan.compile shoeShop.lookup .product (Params.ofPairs
        [("price", "gte_10"), ("price", " lte_50"), ("stock", "gt_0"), ("category", "Shoes"),
          ("search", " "), ("q", "RED"), ("select", "name"), ("include", "tags")]) = .ok plan ∧
      plan.offset = none ∧ plan.limit = none ∧
      (shoeShop.findProducts plan).Perm ((shoeShop.products.take 1).map fun p =>
        (shoeShop.record (plan.relations.getD ∅) p).project plan.projection) := by
  obtain ⟨plan, compiled, unpaged⟩ := Steps.exists_of_any
    (x := Plan.compile shoeShop.lookup .product (Params.ofPairs
      [("price", "gte_10"), ("price", " lte_50"), ("stock", "gt_0"), ("category", "Shoes"),
        ("search", " "), ("q", "RED"), ("select", "name"), ("include", "tags")]))
    (p := fun plan => plan.offset = none ∧ plan.limit = none) (by decide +kernel)
  rw [decide_eq_true_iff] at unpaged
  refine ⟨plan, compiled, unpaged.1, unpaged.2, ?_⟩
  have found := findProducts_perm_answers compiled unpaged.1 unpaged.2
  rwa [show shoeShop.products.filter (shoeShop.Answers _ ·) = shoeShop.products.take 1 by
    decide +kernel] at found

end Store
end Catalog
