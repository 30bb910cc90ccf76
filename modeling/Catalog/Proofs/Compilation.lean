import Catalog.Query
import Catalog.Proofs.Steps

set_option autoImplicit false

namespace Catalog

def Lookup.Resolves (lookup : Lookup) (name : Option String) (id : Option Int) : Prop :=
  match name with
  | none => id = none
  | some name => ∃ found, (lookup name).id = .ok found ∧ id = some found

theorem Query.range?_ok {field : RangeField} {params : Params} {range : Option Interval}
    (ranged : Query.range? field params = .ok range) :
    match range with
    | none => params.terms field.name = []
    | some i => params.terms field.name ≠ [] ∧ field.interval (params.terms field.name) = .ok i := by
  unfold Query.range? at ranged
  split at ranged
  next blank =>
    cases ranged
    exact blank
  next given =>
    obtain ⟨i, accepted, rfl⟩ := Steps.map_eq_ok.mp ranged
    exact ⟨given, accepted⟩

section Refusals

variable {field : RangeField} {params : Params} {e : QueryError}

theorem Query.status_relations {allowed : List String}
    (refused : Query.relations allowed params = .error e) : e.status = 400 := by
  unfold Query.relations at refused
  split at refused
  next => cases refused
  next =>
    obtain ⟨name, -, rfl⟩ := Steps.mapError_eq_error.mp refused
    rfl

theorem Query.status_order (refused : Query.order params = .error e) : e.status = 400 := by
  unfold Query.order at refused
  split at refused
  next => cases refused
  next =>
    obtain ⟨term, -, unread⟩ := Steps.exists_of_mapM_error refused
    split at unread
    next => cases unread
    next =>
      cases unread
      rfl

theorem RangeField.status_readTerm {term : String} (refused : field.readTerm term = .error e) :
    e.status = 400 := by
  unfold RangeField.readTerm at refused
  split at refused
  next =>
    split at refused
    next =>
      cases refused
      rfl
    next => cases refused
  next =>
    cases refused
    rfl

theorem RangeField.status_interval {terms : List String}
    (refused : field.interval terms = .error e) : e.status = 400 := by
  match terms, refused with
  | [], refused =>
    cases refused
    rfl
  | [term], refused =>
    rcases Steps.bind_eq_error.mp refused with unread | ⟨t, -, never⟩
    · exact RangeField.status_readTerm unread
    · cases never
  | [first, second], refused =>
    rcases Steps.bind_eq_error.mp refused with unread | ⟨s, -, refused⟩
    · exact RangeField.status_readTerm unread
    · rcases Steps.bind_eq_error.mp refused with unread | ⟨t, -, refused⟩
      · exact RangeField.status_readTerm unread
      · split at refused
        next =>
          cases refused
          rfl
        next => split at refused <;> cases refused
  | _ :: _ :: _ :: _, refused =>
    cases refused
    rfl

theorem Query.status_range? (refused : Query.range? field params = .error e) : e.status = 400 := by
  unfold Query.range? at refused
  split at refused
  next => cases refused
  next => exact RangeField.status_interval (Steps.map_eq_error.mp refused)

theorem Query.status_identifier {text : String} (refused : Query.identifier text = .error e) :
    e.status = 400 := by
  unfold Query.identifier at refused
  split at refused
  next => cases refused
  next =>
    cases refused
    rfl

theorem Draft.status_ofParams {profile : Profile}
    (refused : Draft.ofParams profile params = .error e) : e.status = 400 := by
  simp only [Draft.ofParams, Steps.bind_eq_error] at refused
  rcases refused with relations | ⟨_, -, order | ⟨_, -, rest⟩⟩
  · exact Query.status_relations relations
  · exact Query.status_order order
  · split at rest
    next =>
      simp only [Steps.bind_eq_error] at rest
      rcases rest with price | ⟨_, -, stock | ⟨_, -, never⟩⟩
      · exact Query.status_range? price
      · exact Query.status_range? stock
      · cases never
    next => cases rest

end Refusals

namespace Plan

def Projects (profile : Profile) (params : Params) (plan : Plan) : Prop :=
  ∃ relations, Query.relations profile.relations params = .ok relations ∧
    plan.relations = (if relations.isEmpty then none else some relations) ∧
    plan.projection = Query.projection profile (Query.selection profile params) relations

structure Filters (lookup : Lookup) (params : Params) (plan : Plan) : Prop where
  priceRange : Query.range? .price params = .ok plan.priceRange
  stockRange : Query.range? .stock params = .ok plan.stockRange
  searchTerm : plan.searchTerm = Query.searchTerm? params
  categoryId : lookup.Resolves (params.text? "category") plan.categoryId

structure FiltersNothing (plan : Plan) : Prop where
  priceRange : plan.priceRange = none
  stockRange : plan.stockRange = none
  searchTerm : plan.searchTerm = none
  categoryId : plan.categoryId = none

structure CompiledFrom (lookup : Lookup) (profile : Profile) (params : Params) (plan : Plan) :
    Prop where
  projects : plan.Projects profile params
  order : Query.order params = .ok plan.order
  offset : plan.offset = Query.count? params "offset"
  limit : plan.limit = Query.count? params "limit"
  featuredOnly : plan.featuredOnly = false
  filters : profile.filterable = true → plan.Filters lookup params
  filtersNothing : profile.filterable = false → plan.FiltersNothing

theorem CompiledFrom.filters_or_nothing {lookup : Lookup} {profile : Profile} {params : Params}
    {plan : Plan} (compiled : plan.CompiledFrom lookup profile params) :
    plan.Filters lookup params ∨ plan.FiltersNothing := by
  cases filterable : profile.filterable with
  | true => exact .inl (compiled.filters filterable)
  | false => exact .inr (compiled.filtersNothing filterable)

end Plan

section Drafted

variable {lookup : Lookup} {profile : Profile} {params : Params} {draft : Draft}

theorem Draft.category_ofParams (drafted : Draft.ofParams profile params = .ok draft) :
    draft.plan.categoryId = none ∧
      draft.category = if profile.filterable then params.text? "category" else none := by
  simp only [Draft.ofParams, Steps.bind_eq_ok] at drafted
  obtain ⟨relations, -, order, -, rest⟩ := drafted
  split at rest
  next filterable =>
    simp only [Steps.bind_eq_ok] at rest
    obtain ⟨priceRange, -, stockRange, -, rest⟩ := rest
    cases rest
    exact ⟨rfl, (if_pos filterable).symm⟩
  next bare =>
    cases rest
    exact ⟨rfl, (if_neg bare).symm⟩

theorem Draft.compiledFrom (drafted : Draft.ofParams profile params = .ok draft) {id : Option Int}
    (resolved : lookup.Resolves draft.category id) :
    { draft.plan with categoryId := id }.CompiledFrom lookup profile params := by
  simp only [Draft.ofParams, Steps.bind_eq_ok] at drafted
  obtain ⟨relations, included, order, ordered, rest⟩ := drafted
  split at rest
  next filterable =>
    simp only [Steps.bind_eq_ok] at rest
    obtain ⟨priceRange, priced, stockRange, stocked, rest⟩ := rest
    cases rest
    exact ⟨⟨relations, included, rfl, rfl⟩, ordered, rfl, rfl, rfl,
      fun _ => ⟨priced, stocked, rfl, resolved⟩, fun bare => by simp [bare] at filterable⟩
  next bare =>
    cases rest
    exact ⟨⟨relations, included, rfl, rfl⟩, ordered, rfl, rfl, rfl,
      fun filterable => absurd filterable bare, fun _ => ⟨rfl, rfl, rfl, resolved⟩⟩

end Drafted

namespace Plan

theorem exists_draft {lookup : Lookup} {profile : Profile} {params : Params} {plan : Plan}
    (compiled : Plan.compile lookup profile params = .ok plan) :
    ∃ draft id, Draft.ofParams profile params = .ok draft ∧
      lookup.Resolves draft.category id ∧ plan = { draft.plan with categoryId := id } := by
  unfold Plan.compile Plan.compileWith at compiled
  split at compiled
  next => cases compiled
  next draft drafted =>
    refine ⟨draft, ?_⟩
    split at compiled
    next unnamed =>
      have same : draft.plan = plan := Except.ok.inj compiled
      refine ⟨none, drafted, by rw [unnamed]; rfl, ?_⟩
      rw [← same, ← (Draft.category_ofParams drafted).1]
    next name named =>
      have answered : (lookup name).id.map (fun id => { draft.plan with categoryId := some id }) =
          .ok plan := compiled
      obtain ⟨found, resolved, same⟩ := Steps.map_eq_ok.mp answered
      exact ⟨some found, drafted, by rw [named]; exact ⟨found, resolved, rfl⟩, same.symm⟩

theorem compiledFrom {lookup : Lookup} {profile : Profile} {params : Params} {plan : Plan}
    (compiled : Plan.compile lookup profile params = .ok plan) :
    plan.CompiledFrom lookup profile params := by
  obtain ⟨draft, id, drafted, resolved, rfl⟩ := exists_draft compiled
  exact Draft.compiledFrom drafted resolved

end Plan
end Catalog
