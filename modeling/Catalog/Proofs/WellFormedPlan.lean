import Catalog.Proofs.OrderKeys
import Catalog.Proofs.Projection
import Catalog.Proofs.Ranges

set_option autoImplicit false

namespace Catalog

def Binary64.IsIntegral (x : Binary64) : Prop :=
  ∃ negative rank lt n, x = .finite negative rank lt ∧
    Binary64.units rank = n * Binary64.unitsPerOne

theorem Binary64.isIntegral_of_isWhole {x : Binary64} (whole : x.isWhole = true) :
    x.IsIntegral := by
  cases x with
  | finite negative rank lt =>
    have multiple : Binary64.units rank % Binary64.unitsPerOne = 0 := by
      simpa [Binary64.isWhole] using whole
    refine ⟨negative, rank, lt, Binary64.units rank / Binary64.unitsPerOne, rfl, ?_⟩
    exact (Nat.div_mul_cancel (Nat.dvd_of_mod_eq_zero multiple)).symm
  | infinite negative => cases whole
  | nan => cases whole

def Interval.HasBound (i : Interval) (b : Bound) : Prop := i.lower = some b ∨ i.upper = some b

structure Interval.WellFormed (kind : NumberKind) (i : Interval) : Prop where
  bounded : ∃ b, i.HasBound b
  finite : ∀ b, i.HasBound b → b.value.isFinite = true
  integral : kind = .integer → ∀ b, i.HasBound b → b.value.IsIntegral

theorem Interval.Joins.hasBound_iff {i : Interval} {ts : List RangeTerm} (joins : i.Joins ts)
    {b : Bound} : i.HasBound b ↔ ∃ t ∈ ts, t.bound = b := by
  rw [Interval.HasBound, joins.lower, joins.upper]
  constructor
  · rintro (⟨t, member, -, same⟩ | ⟨t, member, -, same⟩) <;> exact ⟨t, member, same⟩
  · rintro ⟨t, member, same⟩
    cases side : t.comparison.isUpper
    · exact .inl ⟨t, member, side, same⟩
    · exact .inr ⟨t, member, side, same⟩

theorem RangeField.wellFormed_interval {field : RangeField} {terms : List String} {i : Interval}
    (accepted : field.interval terms = .ok i) : i.WellFormed field.kind := by
  obtain ⟨ts, reads, joins⟩ := RangeField.interval_ok accepted
  have sources : ∀ t ∈ ts, ∃ term, field.readTerm term = .ok t := by
    intro t member
    obtain ⟨n, inside, rfl⟩ := List.mem_iff_getElem.mp member
    exact ⟨_, reads.get (by rwa [reads.length_eq]) inside⟩
  refine ⟨?_, ?_, ?_⟩
  · obtain ⟨t, member⟩ := List.exists_mem_of_ne_nil ts joins.nonempty
    exact ⟨t.bound, joins.hasBound_iff.mpr ⟨t, member, rfl⟩⟩
  · intro b present
    obtain ⟨t, member, rfl⟩ := joins.hasBound_iff.mp present
    obtain ⟨term, read⟩ := sources t member
    exact RangeTerm.isFinite_of_read? (RangeField.readTerm_ok read).1
  · intro integer b present
    obtain ⟨t, member, rfl⟩ := joins.hasBound_iff.mp present
    obtain ⟨term, read⟩ := sources t member
    exact Binary64.isIntegral_of_isWhole ((RangeField.readTerm_ok read).2 integer)

theorem Query.wellFormed_range? {field : RangeField} {params : Params} {i : Interval}
    (ranged : Query.range? field params = .ok (some i)) : i.WellFormed field.kind :=
  RangeField.wellFormed_interval (Query.range?_ok ranged).2

theorem Query.trim_searchTerm? {params : Params} {term : String}
    (found : Query.searchTerm? params = some term) : Text.trim term = term ∧ term ≠ "" := by
  rcases Option.or_eq_some_iff.mp found with given | ⟨-, given⟩
  · exact Params.trim_of_text? given
  · exact Params.trim_of_text? given

namespace Plan

structure WellFormed (profile : Profile) (plan : Plan) : Prop where
  projection : ∀ f, plan.projection = some f → f.entries ≠ [] ∧
    ∀ e ∈ f.entries, e.2 = true ∧ (e.1 ∈ profile.scalars ∨ e.1 ∈ profile.relations)
  relations : ∀ f, plan.relations = some f → f.entries ≠ [] ∧
    ∀ e ∈ f.entries, e.2 = true ∧ e.1 ∈ profile.relations
  -- no relation is attached only to be projected away
  attached : ∀ f, plan.relations = some f →
    ∃ g, plan.projection = some g ∧ ∀ name ∈ f.names, g.get? name = some true
  order : ∀ key ∈ plan.order, key.NamesField
  priceRange : ∀ i, plan.priceRange = some i → i.WellFormed .decimal
  stockRange : ∀ i, plan.stockRange = some i → i.WellFormed .integer
  searchTerm : ∀ term, plan.searchTerm = some term → Text.trim term = term ∧ term ≠ ""
  featuredOnly : plan.featuredOnly = false
  unfilterable : profile.filterable = false → plan.FiltersNothing

variable {lookup : Lookup} {profile : Profile} {params : Params} {plan : Plan}

theorem CompiledFrom.ranges_wellFormed (compiled : plan.CompiledFrom lookup profile params) :
    (∀ i, plan.priceRange = some i → i.WellFormed .decimal) ∧
      ∀ i, plan.stockRange = some i → i.WellFormed .integer := by
  rcases compiled.filters_or_nothing with filters | nothing
  · constructor
    · intro i ranged
      exact Query.wellFormed_range? (ranged ▸ filters.priceRange)
    · intro i ranged
      exact Query.wellFormed_range? (ranged ▸ filters.stockRange)
  · simp [nothing.priceRange, nothing.stockRange]

theorem CompiledFrom.searchTerm_trimmed (compiled : plan.CompiledFrom lookup profile params) :
    ∀ term, plan.searchTerm = some term → Text.trim term = term ∧ term ≠ "" := by
  intro term searched
  rcases compiled.filters_or_nothing with filters | nothing
  · exact Query.trim_searchTerm? (filters.searchTerm.symm.trans searched)
  · simp [nothing.searchTerm] at searched

theorem CompiledFrom.order_namesField (compiled : plan.CompiledFrom lookup profile params) :
    ∀ key ∈ plan.order, key.NamesField := by
  have accepted := compiled.order
  unfold Query.order at accepted
  split at accepted
  next =>
    have unordered : [] = plan.order := Except.ok.inj accepted
    simp [← unordered]
  next list given => exact OrderKey.namesField_of_readList accepted

theorem Projects.relations_flagged (projects : plan.Projects profile params) :
    ∀ f, plan.relations = some f → f.entries ≠ [] ∧
      ∀ e ∈ f.entries, e.2 = true ∧ e.1 ∈ profile.relations := by
  intro f attached
  have marks : f.Marks (params.members "include") := by
    simpa [attached] using projects.marks_relations
  refine ⟨marks.entries_ne_nil (projects.relations_nonempty attached), ?_⟩
  intro e member
  exact ⟨marks.value_of_mem member, projects.relations_allowed _ (marks.name_of_mem member)⟩

theorem Projects.projection_flagged (projects : plan.Projects profile params) :
    ∀ f, plan.projection = some f → f.entries ≠ [] ∧
      ∀ e ∈ f.entries, e.2 = true ∧ (e.1 ∈ profile.scalars ∨ e.1 ∈ profile.relations) := by
  intro f projected
  obtain ⟨marks, nonempty⟩ := projects.marks_projection projected
  refine ⟨marks.entries_ne_nil nonempty, ?_⟩
  intro e member
  have allowed := projects.shown_allowed _ (marks.name_of_mem member)
  exact ⟨marks.value_of_mem member, allowed.imp_right And.left⟩

theorem Projects.relations_projected (projects : plan.Projects profile params) :
    ∀ f, plan.relations = some f →
      ∃ g, plan.projection = some g ∧ ∀ name ∈ f.names, g.get? name = some true := by
  intro f attached
  have marks : f.Marks (params.members "include") := by
    simpa [attached] using projects.marks_relations
  cases projected : plan.projection with
  | none => exact absurd (projects.unprojected projected).1 (projects.relations_nonempty attached)
  | some g =>
    refine ⟨g, rfl, ?_⟩
    intro name member
    have asked : name ∈ Query.shown profile params :=
      List.mem_append_right _ (marks.mem_names.mp member)
    rw [(projects.marks_projection projected).1 name, if_pos asked]

theorem wellFormed_of_compile (compiled : Plan.compile lookup profile params = .ok plan) :
    plan.WellFormed profile := by
  have parts := compiledFrom compiled
  exact {
    projection := parts.projects.projection_flagged
    relations := parts.projects.relations_flagged
    attached := parts.projects.relations_projected
    order := parts.order_namesField
    priceRange := parts.ranges_wellFormed.1
    stockRange := parts.ranges_wellFormed.2
    searchTerm := parts.searchTerm_trimmed
    featuredOnly := parts.featuredOnly
    unfilterable := parts.filtersNothing }

theorem wellFormed_of_compile_all_parts :
    ∃ plan, Plan.compile (Lookup.ofCategories [⟨3, "Shoes"⟩]) .product (Params.ofPairs
        [("select", " name,,secret"), ("include", "tags"), ("order_by", "price.desc, name"),
          ("price", "gte_10"), ("price", "lt_99.5"), ("stock", "gt_0"), ("category", " Shoes"),
          ("search", " "), ("q", "red ")]) = .ok plan ∧
      plan.WellFormed .product :=
  (Steps.exists_of_any (p := fun _ => true) (by decide +kernel)).imp fun _ compiled =>
    ⟨compiled.1, wellFormed_of_compile compiled.1⟩

end Plan
end Catalog
