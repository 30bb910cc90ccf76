import Catalog.Proofs.Decomposition

set_option autoImplicit false

namespace Catalog

-- All that can be refused without an answer is accepted, and a category is named.
structure Query.Asks (profile : Profile) (params : Params) (name : String) : Prop where
  filterable : profile.filterable = true
  named : params.FirstText "category" name
  included : ∃ flags, Query.relations profile.relations params = .ok flags
  ordered : ∃ keys, Query.order params = .ok keys
  priced : ∃ range, Query.range? .price params = .ok range
  stocked : ∃ range, Query.range? .stock params = .ok range

theorem Query.asks_iff {profile : Profile} {params : Params} {name : String} :
    Query.Asks profile params name ↔
      ∃ draft, Draft.ofParams profile params = .ok draft ∧ draft.category = some name := by
  constructor
  · rintro ⟨filterable, named, included, ordered, priced, stocked⟩
    have accepted : Steps.failure? (Draft.ofParams profile params) = none := by
      rw [Draft.failure?_ofParams, filterable, Steps.failure?_eq_none_iff.mpr included,
        Steps.failure?_eq_none_iff.mpr ordered, Steps.failure?_eq_none_iff.mpr priced,
        Steps.failure?_eq_none_iff.mpr stocked]
      rfl
    obtain ⟨draft, drafted⟩ := Steps.failure?_eq_none_iff.mp accepted
    refine ⟨draft, drafted, ?_⟩
    rw [(Draft.category_ofParams drafted).2, if_pos filterable, Params.text?_eq_some_iff]
    exact named
  · rintro ⟨draft, drafted, named⟩
    rw [(Draft.category_ofParams drafted).2] at named
    split at named
    next filterable =>
      have accepted := Steps.failure?_eq_none_iff.mpr ⟨draft, drafted⟩
      simp only [Draft.failure?_ofParams, if_pos filterable, Option.or_eq_none_iff,
        Steps.failure?_eq_none_iff] at accepted
      obtain ⟨included, ordered, priced, stocked⟩ := accepted
      exact ⟨filterable, Params.text?_eq_some_iff.mp named, included, ordered, priced, stocked⟩
    next => cases named

namespace Plan

def traced (lookup : Lookup) (profile : Profile) (params : Params) :
    Except QueryError Plan × List String :=
  (compileWith lookup.recorded profile params).run []

structure SettledBy (answer : LookupAnswer) (rest : Plan) (result : Except QueryError Plan) :
    Prop where
  unavailable : ∀ cause, result = .error (.storeUnavailable cause) ↔ answer = .error cause
  missing : result = .error (.notFound "category") ↔ answer = .ok none
  found : ∀ c, answer = .ok (some c) → result = .ok { rest with categoryId := some c.id }

theorem settledBy_map_id (answer : LookupAnswer) (rest : Plan) :
    SettledBy answer rest (answer.id.map fun id => { rest with categoryId := some id }) := by
  rcases answer with cause | _ | c
  · exact ⟨by simp [LookupAnswer.id, Except.map], by simp [LookupAnswer.id, Except.map], by simp⟩
  · exact ⟨by simp [LookupAnswer.id, Except.map], by simp [LookupAnswer.id, Except.map], by simp⟩
  · refine ⟨by simp [LookupAnswer.id, Except.map], by simp [LookupAnswer.id, Except.map], ?_⟩
    intro other same
    cases same
    rfl

section Traced

variable {profile : Profile} {params : Params} {name : String}

theorem fst_traced (lookup : Lookup) (profile : Profile) (params : Params) :
    (traced lookup profile params).1 = compile lookup profile params := by
  unfold traced compile compileWith
  split
  next => rfl
  next draft _ => cases draft.category <;> rfl

theorem traced_of_asks (asks : Query.Asks profile params name) :
    ∃ rest : Plan, ∀ lookup : Lookup, (traced lookup profile params).2 = [name] ∧
      SettledBy (lookup name) rest (compile lookup profile params) := by
  obtain ⟨draft, drafted, named⟩ := Query.asks_iff.mp asks
  refine ⟨draft.plan, ?_⟩
  intro lookup
  unfold traced compile compileWith
  rw [drafted]
  simp only [named]
  exact ⟨rfl, settledBy_map_id (lookup name) draft.plan⟩

theorem traced_of_not_asks (silent : ¬ ∃ name, Query.Asks profile params name) :
    ∃ result, ∀ lookup : Lookup, (traced lookup profile params).2 = [] ∧
      compile lookup profile params = result := by
  simp only [Query.asks_iff] at silent
  unfold traced compile compileWith
  cases drafted : Draft.ofParams profile params with
  | error e => exact ⟨.error e, fun _ => ⟨rfl, rfl⟩⟩
  | ok draft =>
    have unnamed : draft.category = none := by
      rw [Option.eq_none_iff_forall_ne_some]
      intro name named
      exact silent ⟨name, draft, drafted, named⟩
    simp only [unnamed]
    exact ⟨.ok draft.plan, fun _ => ⟨rfl, rfl⟩⟩

theorem lookup_discipline (profile : Profile) (params : Params) :
    (∀ lookup : Lookup, (traced lookup profile params).1 = compile lookup profile params ∧
      ((traced lookup profile params).2 ≠ [] ↔ ∃ name, Query.Asks profile params name)) ∧
    ((¬ ∃ name, Query.Asks profile params name) →
      ∃ result, ∀ lookup : Lookup, compile lookup profile params = result) ∧
    ∀ name, Query.Asks profile params name →
      ∃ rest : Plan, ∀ lookup : Lookup, (traced lookup profile params).2 = [name] ∧
        SettledBy (lookup name) rest (compile lookup profile params) := by
  refine ⟨?_, ?_, fun name => traced_of_asks⟩
  · intro lookup
    refine ⟨fst_traced lookup profile params, ?_, ?_⟩
    · intro looked
      by_contra silent
      obtain ⟨result, same⟩ := traced_of_not_asks silent
      exact looked (same lookup).1
    · rintro ⟨name, asks⟩
      obtain ⟨rest, settled⟩ := traced_of_asks asks
      simp [(settled lookup).1]
  · intro silent
    obtain ⟨result, same⟩ := traced_of_not_asks silent
    exact ⟨result, fun lookup => (same lookup).2⟩

end Traced

def shoesParams : Params :=
  Params.ofPairs [("category", " "), ("category", " Shoes "), ("category", "Hats"),
    ("price", "gte_10"), ("order_by", "price.desc")]

def unpricedParams : Params := shoesParams.insert "price" "cheap"

theorem lookup_discipline_shoes :
    (Query.Asks .product shoesParams "Shoes" ∧
      ∃ rest : Plan, ∀ lookup : Lookup, (traced lookup .product shoesParams).2 = ["Shoes"] ∧
        SettledBy (lookup "Shoes") rest (compile lookup .product shoesParams)) ∧
    (¬ ∃ name, Query.Asks .product unpricedParams name) ∧
      ∃ result, ∀ lookup : Lookup, compile lookup .product unpricedParams = result := by
  have asks : Query.Asks .product shoesParams "Shoes" := {
    filterable := rfl
    named := Params.text?_eq_some_iff.mp (by decide +kernel)
    included := Steps.failure?_eq_none_iff.mp (by decide +kernel)
    ordered := Steps.failure?_eq_none_iff.mp (by decide +kernel)
    priced := Steps.failure?_eq_none_iff.mp (by decide +kernel)
    stocked := Steps.failure?_eq_none_iff.mp (by decide +kernel) }
  have silent : ¬ ∃ name, Query.Asks .product unpricedParams name := by
    rintro ⟨name, asks⟩
    have priced := Steps.failure?_eq_none_iff.mpr asks.priced
    revert priced
    decide +kernel
  exact ⟨⟨asks, (lookup_discipline .product shoesParams).2.2 "Shoes" asks⟩, silent,
    (lookup_discipline .product unpricedParams).2.1 silent⟩

end Plan
end Catalog
