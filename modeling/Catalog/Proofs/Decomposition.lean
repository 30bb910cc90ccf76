import Catalog.Proofs.ReadKeys

set_option autoImplicit false

namespace Catalog

namespace Query

-- The keys for whose values a request may be refused, in the order in which they are checked.
def checkedKeys (profile : Profile) : List String :=
  ["include", "order_by"] ++ if profile.filterable then ["price", "stock", "category"] else []

def fault? (lookup : Lookup) (profile : Profile) (params : Params) : String → Option QueryError
  | "include" => Steps.failure? (relations profile.relations params)
  | "order_by" => Steps.failure? (order params)
  | "price" => Steps.failure? (range? .price params)
  | "stock" => Steps.failure? (range? .stock params)
  | "category" => (params.text? "category").bind fun name => Steps.failure? (lookup name).id
  | _ => none

variable {lookup : Lookup} {profile : Profile} {p q params : Params}

theorem fault?_congr {key : String} (same : p.terms key = q.terms key) :
    fault? lookup profile p key = fault? lookup profile q key := by
  unfold fault?
  split
  · rw [relations_congr same]
  · rw [order_congr same]
  · rw [range?_congr .price same]
  · rw [range?_congr .stock same]
  · rw [Params.text?_congr same]
  · rfl

theorem fault?_of_blank {key : String} (blank : p.terms key = []) :
    fault? lookup profile p key = none := by
  have same : p.terms key = Params.empty.terms key := blank
  rw [fault?_congr same]
  unfold fault?
  split <;> rfl

theorem fault?_restrict (keys : List String) (key : String) :
    fault? lookup profile (params.restrict keys) key =
      if key ∈ keys then fault? lookup profile params key else none := by
  split
  next kept => exact (fault?_congr (Params.terms_restrict_of_mem kept)).symm
  next dropped =>
    apply fault?_of_blank
    rw [Params.terms_restrict, if_neg dropped]

end Query

namespace Draft

variable {profile : Profile} {params : Params}

theorem failure?_ofParams : Steps.failure? (ofParams profile params) =
    (Steps.failure? (Query.relations profile.relations params)).or
      ((Steps.failure? (Query.order params)).or
        (if profile.filterable then
          (Steps.failure? (Query.range? .price params)).or
            (Steps.failure? (Query.range? .stock params))
        else none)) := by
  unfold ofParams
  apply Steps.failure?_bind
  intro relations
  apply Steps.failure?_bind
  intro order
  cases profile.filterable with
  | false => rfl
  | true =>
    apply Steps.failure?_bind
    intro priceRange
    exact Steps.failure?_map

end Draft

namespace Plan

section Failure

variable {lookup : Lookup} {profile : Profile} {params : Params}

-- The lookup comes last, so it decides only where nothing else is refused.
theorem failure?_compile_eq_or : Steps.failure? (compile lookup profile params) =
    (Steps.failure? (Draft.ofParams profile params)).or
      (if profile.filterable then Query.fault? lookup profile params "category" else none) := by
  unfold compile compileWith
  split
  next e drafted =>
    rw [drafted]
    rfl
  next draft drafted =>
    have named := (Draft.category_ofParams drafted).2
    rw [drafted]
    split
    next unnamed =>
      rw [unnamed] at named
      split
      next filterable =>
        rw [if_pos filterable] at named
        simp only [Query.fault?, ← named]
        rfl
      next => rfl
    next name asked =>
      rw [asked] at named
      split
      next filterable =>
        rw [if_pos filterable] at named
        simp only [Query.fault?, ← named]
        exact Steps.failure?_map
      next bare =>
        rw [if_neg bare] at named
        cases named

theorem failure?_compile : Steps.failure? (compile lookup profile params) =
    (Query.checkedKeys profile).findSome? (Query.fault? lookup profile params) := by
  have first (key : String) (rest : List String) :
      (key :: rest).findSome? (Query.fault? lookup profile params) =
        (Query.fault? lookup profile params key).or
          (rest.findSome? (Query.fault? lookup profile params)) := by
    rw [List.findSome?_cons]
    cases Query.fault? lookup profile params key <;> rfl
  rw [failure?_compile_eq_or, Draft.failure?_ofParams]
  unfold Query.checkedKeys
  cases profile.filterable with
  | false =>
    simp only [Bool.false_eq_true, if_false, List.append_nil, first, List.findSome?_nil,
      Option.or_none]
    rfl
  | true =>
    simp only [if_true, List.cons_append, List.nil_append, first, List.findSome?_nil,
      Option.or_none, Option.or_assoc]
    rfl

end Failure

def compileOnly (lookup : Lookup) (profile : Profile) (params : Params) (keys : List String) :
    Except QueryError Plan :=
  compile lookup profile (params.restrict keys)

def FirstRefusal (profile : Profile) (only : List String → Except QueryError Plan)
    (error : QueryError) : Prop :=
  ∃ before key after, Query.checkedKeys profile = before ++ key :: after ∧
    (∀ earlier ∈ before, ∃ plan, only [earlier] = .ok plan) ∧ only [key] = .error error

-- No key owns the choice of featured products.
structure AssembledFrom (only : List String → Except QueryError Plan) (plan : Plan) : Prop where
  projection : (only ["select", "include"]).map Plan.projection = .ok plan.projection
  relations : (only ["select", "include"]).map Plan.relations = .ok plan.relations
  order : (only ["order_by"]).map Plan.order = .ok plan.order
  offset : (only ["offset"]).map Plan.offset = .ok plan.offset
  limit : (only ["limit"]).map Plan.limit = .ok plan.limit
  priceRange : (only ["price"]).map Plan.priceRange = .ok plan.priceRange
  stockRange : (only ["stock"]).map Plan.stockRange = .ok plan.stockRange
  categoryId : (only ["category"]).map Plan.categoryId = .ok plan.categoryId
  searchTerm : (only ["search", "q"]).map Plan.searchTerm = .ok plan.searchTerm
  featuredOnly : (only []).map Plan.featuredOnly = .ok plan.featuredOnly

theorem AssembledFrom.unique {only : List String → Except QueryError Plan} {plan other : Plan}
    (left : plan.AssembledFrom only) (right : other.AssembledFrom only) : plan = other := by
  cases plan
  cases other
  rw [Plan.mk.injEq]
  exact ⟨Steps.ok_unique rfl left.projection right.projection,
    Steps.ok_unique rfl left.relations right.relations,
    Steps.ok_unique rfl left.order right.order,
    Steps.ok_unique rfl left.offset right.offset,
    Steps.ok_unique rfl left.limit right.limit,
    Steps.ok_unique rfl left.priceRange right.priceRange,
    Steps.ok_unique rfl left.stockRange right.stockRange,
    Steps.ok_unique rfl left.categoryId right.categoryId,
    Steps.ok_unique rfl left.searchTerm right.searchTerm,
    Steps.ok_unique rfl left.featuredOnly right.featuredOnly⟩

section Only

variable {lookup : Lookup} {profile : Profile} {params : Params} {plan : Plan} {key : String}

theorem failure?_compileOnly (keys : List String) :
    Steps.failure? (compileOnly lookup profile params keys) =
      (Query.checkedKeys profile).findSome? fun key =>
        if key ∈ keys then Query.fault? lookup profile params key else none := by
  rw [compileOnly, failure?_compile]
  congr 1
  funext key
  exact Query.fault?_restrict keys key

theorem findSome?_only {fault? : String → Option QueryError} {keys : List String}
    (member : key ∈ keys) :
    keys.findSome? (fun k => if k ∈ [key] then fault? k else none) = fault? key := by
  obtain ⟨before, after, rfl, absent⟩ := List.eq_append_cons_of_mem member
  have skipped : before.findSome? (fun k => if k ∈ [key] then fault? k else none) = none := by
    rw [List.findSome?_eq_none_iff]
    intro k inside
    have other : k ≠ key := fun same => absent (same ▸ inside)
    simp [other]
  rw [List.findSome?_append, skipped, Option.none_or, List.findSome?_cons]
  cases faulty : fault? key with
  | some e => simp
  | none =>
    simp only [List.mem_singleton, if_true]
    rw [List.findSome?_eq_none_iff]
    intro k _
    split
    next same => rw [same, faulty]
    next => rfl

theorem failure?_compileOnly_singleton (checked : key ∈ Query.checkedKeys profile) :
    Steps.failure? (compileOnly lookup profile params [key]) =
      Query.fault? lookup profile params key := by
  rw [failure?_compileOnly, findSome?_only checked]

theorem compile_eq_error_iff {error : QueryError} :
    compile lookup profile params = .error error ↔
      FirstRefusal profile (compileOnly lookup profile params) error := by
  rw [← Steps.failure?_eq_some_iff, failure?_compile, List.findSome?_eq_some_iff]
  constructor
  · rintro ⟨before, key, after, split, faulty, fine⟩
    refine ⟨before, key, after, split, ?_, ?_⟩
    · intro earlier member
      rw [← Steps.failure?_eq_none_iff, failure?_compileOnly_singleton (by simp [split, member])]
      exact fine earlier member
    · rw [← Steps.failure?_eq_some_iff, failure?_compileOnly_singleton (by simp [split])]
      exact faulty
  · rintro ⟨before, key, after, split, fine, faulty⟩
    rw [← Steps.failure?_eq_some_iff, failure?_compileOnly_singleton (by simp [split])] at faulty
    refine ⟨before, key, after, split, faulty, ?_⟩
    intro earlier member
    rw [← failure?_compileOnly_singleton (by simp [split, member]), Steps.failure?_eq_none_iff]
    exact fine earlier member

theorem fault?_of_compile (compiled : compile lookup profile params = .ok plan) :
    ∀ key ∈ Query.checkedKeys profile, Query.fault? lookup profile params key = none := by
  rw [← List.findSome?_eq_none_iff, ← failure?_compile, Steps.failure?_eq_none_iff]
  exact ⟨plan, compiled⟩

theorem exists_compile_congr {q : Params}
    (same : ∀ key ∈ Query.checkedKeys profile, params.terms key = q.terms key)
    (compiled : compile lookup profile params = .ok plan) :
    ∃ other, compile lookup profile q = .ok other := by
  rw [← Steps.failure?_eq_none_iff, failure?_compile, List.findSome?_eq_none_iff]
  intro key checked
  rw [← Query.fault?_congr (same key checked)]
  exact fault?_of_compile compiled key checked

theorem exists_error_iff :
    (∃ error, compile lookup profile params = .error error) ↔
      ∃ key ∈ Query.checkedKeys profile, ∃ error,
        compileOnly lookup profile params [key] = .error error := by
  constructor
  · rintro ⟨error, refused⟩
    obtain ⟨before, key, after, split, -, faulty⟩ := compile_eq_error_iff.mp refused
    exact ⟨key, by simp [split], error, faulty⟩
  · rintro ⟨key, checked, error, faulty⟩
    cases compiled : compile lookup profile params with
    | error e => exact ⟨e, rfl⟩
    | ok plan =>
      rw [← Steps.failure?_eq_some_iff, failure?_compileOnly_singleton checked,
        fault?_of_compile compiled key checked] at faulty
      cases faulty

theorem exists_compileOnly (compiled : compile lookup profile params = .ok plan)
    (keys : List String) :
    ∃ part, compileOnly lookup profile params keys = .ok part ∧
      part.CompiledFrom lookup profile (params.restrict keys) := by
  have unrefused : Steps.failure? (compileOnly lookup profile params keys) = none := by
    rw [failure?_compileOnly, List.findSome?_eq_none_iff]
    intro key checked
    rw [fault?_of_compile compiled key checked, ite_self]
  obtain ⟨part, given⟩ := Steps.failure?_eq_none_iff.mp unrefused
  exact ⟨part, given, compiledFrom given⟩

theorem assembledFrom_of_compile (compiled : compile lookup profile params = .ok plan) :
    plan.AssembledFrom (compileOnly lookup profile params) := by
  have whole := compiledFrom compiled
  have agree {α : Type} (keys : List String) (get : Plan → α)
      (same : ∀ part : Plan, part.CompiledFrom lookup profile (params.restrict keys) →
        get plan = get part) :
      (compileOnly lookup profile params keys).map get = .ok (get plan) := by
    obtain ⟨part, given, parts⟩ := exists_compileOnly compiled keys
    rw [given, same part parts]
    rfl
  have kept {key : String} {keys : List String} (member : key ∈ keys) :
      params.terms key = (params.restrict keys).terms key := Params.terms_restrict_of_mem member
  have projects {part : Plan}
      (parts : part.CompiledFrom lookup profile (params.restrict ["select", "include"])) :=
    whole.projects_eq parts (kept (by simp)) (kept (by simp))
  exact {
    projection := agree _ _ fun _ part => (projects part).1
    relations := agree _ _ fun _ part => (projects part).2
    order := agree _ _ fun _ part => whole.order_eq part (kept (by simp))
    offset := agree _ _ fun _ part => whole.offset_eq part (kept (by simp))
    limit := agree _ _ fun _ part => whole.limit_eq part (kept (by simp))
    priceRange := agree _ _ fun _ part => whole.priceRange_eq part (kept (by simp))
    stockRange := agree _ _ fun _ part => whole.stockRange_eq part (kept (by simp))
    categoryId := agree _ _ fun _ part => whole.categoryId_eq part (kept (by simp))
    searchTerm := agree _ _ fun _ part => whole.searchTerm_eq part (kept (by simp)) (kept (by simp))
    featuredOnly := agree _ _ fun _ part => whole.featuredOnly_eq part }

theorem fault?_of_compileOnly {α : Type} {keys : List String} {get : Plan → α} {value : α}
    (given : (compileOnly lookup profile params keys).map get = .ok value)
    (checked : key ∈ Query.checkedKeys profile) (kept : key ∈ keys) :
    Query.fault? lookup profile params key = none := by
  obtain ⟨part, accepted, -⟩ := Steps.map_eq_ok.mp given
  have unrefused := Steps.failure?_eq_none_iff.mpr ⟨part, accepted⟩
  rw [failure?_compileOnly, List.findSome?_eq_none_iff] at unrefused
  simpa [kept] using unrefused key checked

theorem compile_of_assembledFrom
    (assembled : plan.AssembledFrom (compileOnly lookup profile params)) :
    compile lookup profile params = .ok plan := by
  -- Every key that is checked owns a part, and the part's values alone were accepted.
  have unrefused : ∀ key ∈ Query.checkedKeys profile,
      Query.fault? lookup profile params key = none := by
    intro key checked
    have known : key ∈ ["include", "order_by", "price", "stock", "category"] := by
      unfold Query.checkedKeys at checked
      split at checked
      next => exact checked
      next =>
        rw [List.append_nil] at checked
        exact List.mem_append_left ["price", "stock", "category"] checked
    simp only [List.mem_cons, List.not_mem_nil, or_false] at known
    rcases known with rfl | rfl | rfl | rfl | rfl
    · exact fault?_of_compileOnly assembled.relations checked (by simp)
    · exact fault?_of_compileOnly assembled.order checked (by simp)
    · exact fault?_of_compileOnly assembled.priceRange checked (by simp)
    · exact fault?_of_compileOnly assembled.stockRange checked (by simp)
    · exact fault?_of_compileOnly assembled.categoryId checked (by simp)
  rw [← List.findSome?_eq_none_iff, ← failure?_compile,
    Steps.failure?_eq_none_iff] at unrefused
  obtain ⟨other, compiled⟩ := unrefused
  rw [compiled, (assembledFrom_of_compile compiled).unique assembled]

theorem compile_decomposes (lookup : Lookup) (profile : Profile) (params : Params) :
    ((∃ error, compile lookup profile params = .error error) ↔
        ∃ key ∈ Query.checkedKeys profile, ∃ error,
          compileOnly lookup profile params [key] = .error error) ∧
      (∀ error, compile lookup profile params = .error error ↔
        FirstRefusal profile (compileOnly lookup profile params) error) ∧
      ∀ plan, compile lookup profile params = .ok plan ↔
        plan.AssembledFrom (compileOnly lookup profile params) :=
  ⟨exists_error_iff, fun _ => compile_eq_error_iff,
    fun _ => ⟨assembledFrom_of_compile, compile_of_assembledFrom⟩⟩

end Only
end Plan
end Catalog
