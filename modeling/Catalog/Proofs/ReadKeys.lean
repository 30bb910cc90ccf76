import Catalog.Proofs.Compilation
import Catalog.Proofs.Parameters

set_option autoImplicit false

namespace Catalog

namespace Params

def restrict (p : Params) (keys : List String) : Params :=
  ⟨p.entries.filter fun entry => entry.1 ∈ keys⟩

theorem lookup_filter_keys (entries : List (String × ParamValue)) (keys : List String)
    (key : String) :
    (entries.filter fun entry => entry.1 ∈ keys).lookup key =
      if key ∈ keys then entries.lookup key else none := by
  induction entries with
  | nil => simp
  | cons entry rest ih =>
    obtain ⟨k, value⟩ := entry
    by_cases same : key = k
    · subst same
      by_cases kept : key ∈ keys
      · simp [kept]
      · simpa [kept] using ih
    · by_cases kept : k ∈ keys <;> simp [List.lookup_cons, beq_eq_false_iff_ne.mpr same, kept, ih]

theorem terms_restrict (p : Params) (keys : List String) (key : String) :
    (p.restrict keys).terms key = if key ∈ keys then p.terms key else [] := by
  unfold terms values get? restrict
  rw [lookup_filter_keys]
  split <;> rfl

theorem terms_restrict_of_mem {p : Params} {keys : List String} {key : String}
    (kept : key ∈ keys) : p.terms key = (p.restrict keys).terms key := by
  rw [terms_restrict, if_pos kept]

variable {p q : Params} {key : String}

theorem text?_congr (same : p.terms key = q.terms key) : p.text? key = q.text? key := by
  rw [text?, text?, same]

theorem list?_congr (same : p.terms key = q.terms key) : p.list? key = q.list? key := by
  rw [list?, list?, same]

theorem text?_of_blank (blank : p.terms key = []) : p.text? key = none := by
  rw [text?, blank]
  rfl

def members? (p : Params) (key : String) : Option (List String) :=
  (p.list? key).map Text.members

theorem members?_congr (same : p.terms key = q.terms key) : p.members? key = q.members? key := by
  rw [members?, members?, list?_congr same]

theorem map_list?_congr {α : Type} {read : String → α}
    (byMembers : ∀ list list', Text.members list = Text.members list' → read list = read list')
    (same : p.members? key = q.members? key) :
    (p.list? key).map read = (q.list? key).map read := by
  unfold members? at same
  generalize p.list? key = first at same ⊢
  generalize q.list? key = second at same ⊢
  match first, second with
  | none, none => rfl
  | some list, some list' => exact congrArg some (byMembers list list' (Option.some.inj same))
  | none, some _ => cases same
  | some _, none => cases same

end Params

namespace Query

variable {p q : Params}

theorem count?_of_blank {key : String} (blank : p.terms key = []) : count? p key = none := by
  rw [count?, Params.text?_of_blank blank]
  rfl

def listKeys : List String := ["select", "include", "order_by"]

theorem relations_congr_members (same : p.members? "include" = q.members? "include")
    (allowed : List String) : relations allowed p = relations allowed q := by
  have read (params : Params) : relations allowed params =
      ((params.list? "include").map fun list =>
        (Flags.require allowed list).mapError QueryError.invalidInclude).getD (.ok ∅) := by
    unfold relations
    cases params.list? "include" <;> rfl
  rw [read, read, Params.map_list?_congr _ same]
  intro list list' alike
  rw [Flags.require, Flags.require, alike]

theorem selection_congr_members (same : p.members? "select" = q.members? "select")
    (profile : Profile) : selection profile p = selection profile q := by
  apply Params.map_list?_congr _ same
  intro list list' alike
  rw [Flags.select, Flags.select, alike]

theorem order_congr_members (same : p.members? "order_by" = q.members? "order_by") :
    order p = order q := by
  have read (params : Params) :
      order params = ((params.list? "order_by").map OrderKey.readList).getD (.ok []) := by
    unfold order
    cases params.list? "order_by" <;> rfl
  rw [read, read, Params.map_list?_congr _ same]
  intro list list' alike
  rw [OrderKey.readList, OrderKey.readList, alike]

theorem relations_congr (same : p.terms "include" = q.terms "include") (allowed : List String) :
    relations allowed p = relations allowed q :=
  relations_congr_members (Params.members?_congr same) allowed

theorem selection_congr (same : p.terms "select" = q.terms "select") (profile : Profile) :
    selection profile p = selection profile q :=
  selection_congr_members (Params.members?_congr same) profile

theorem order_congr (same : p.terms "order_by" = q.terms "order_by") : order p = order q :=
  order_congr_members (Params.members?_congr same)

theorem count?_congr {key : String} (same : p.terms key = q.terms key) :
    count? p key = count? q key := by
  rw [count?, count?, Params.text?_congr same]

theorem range?_congr (field : RangeField) (same : p.terms field.name = q.terms field.name) :
    range? field p = range? field q := by
  rw [range?, range?, same]

theorem searchTerm?_congr (same : p.terms "search" = q.terms "search")
    (short : p.terms "q" = q.terms "q") : searchTerm? p = searchTerm? q := by
  rw [searchTerm?, searchTerm?, Params.text?_congr same, Params.text?_congr short]

def presentationKeys : List String := ["select", "include", "order_by", "offset", "limit"]

def filterKeys : List String := ["price", "stock", "category", "search", "q"]

theorem not_presentationKey_of_filter {key : String} (filter : key ∈ filterKeys) :
    key ∉ presentationKeys := by
  have apart : ∀ k ∈ filterKeys, k ∉ presentationKeys := by decide
  exact apart key filter

def readKeys (profile : Profile) : List String :=
  presentationKeys ++ if profile.filterable then filterKeys else []

theorem mem_readKeys_of_filter {profile : Profile} (filterable : profile.filterable = true)
    {key : String} (filter : key ∈ filterKeys) : key ∈ readKeys profile := by
  rw [readKeys, if_pos filterable]
  exact List.mem_append_right _ filter

end Query

theorem Draft.ofParams_congr_members {profile : Profile} {p q : Params}
    (listed : ∀ key ∈ Query.listKeys, p.members? key = q.members? key)
    (same : ∀ key ∈ Query.readKeys profile, key ∉ Query.listKeys → p.terms key = q.terms key) :
    Draft.ofParams profile p = Draft.ofParams profile q := by
  have presented {key : String} (member : key ∈ Query.presentationKeys)
      (single : key ∉ Query.listKeys) : p.terms key = q.terms key :=
    same key (List.mem_append_left _ member) single
  unfold Draft.ofParams
  rw [Query.relations_congr_members (listed _ (by decide)),
    Query.order_congr_members (listed _ (by decide)),
    Query.selection_congr_members (listed _ (by decide)),
    Query.count?_congr (presented (by decide) (by decide)),
    Query.count?_congr (presented (by decide) (by decide))]
  cases filterable : profile.filterable with
  | false => rfl
  | true =>
    have filtered {key : String} (filter : key ∈ Query.filterKeys)
        (single : key ∉ Query.listKeys) : p.terms key = q.terms key :=
      same key (Query.mem_readKeys_of_filter filterable filter) single
    have named : p.terms "category" = q.terms "category" := filtered (by decide) (by decide)
    rw [Query.range?_congr .price (filtered (by decide) (by decide)),
      Query.range?_congr .stock (filtered (by decide) (by decide)),
      Query.searchTerm?_congr (filtered (by decide) (by decide)) (filtered (by decide) (by decide)),
      Params.text?_congr named]

theorem Draft.ofParams_congr {profile : Profile} {p q : Params}
    (same : ∀ key ∈ Query.readKeys profile, p.terms key = q.terms key) :
    Draft.ofParams profile p = Draft.ofParams profile q := by
  have presented : ∀ key ∈ Query.listKeys, key ∈ Query.presentationKeys := by decide
  apply Draft.ofParams_congr_members
  · intro key member
    exact Params.members?_congr (same key (List.mem_append_left _ (presented key member)))
  · intro key read _
    exact same key read

theorem Plan.compileWith_congr {m : Type → Type} [Monad m] (lookup : String → m LookupAnswer)
    {profile : Profile} {p q : Params}
    (same : ∀ key ∈ Query.readKeys profile, p.terms key = q.terms key) :
    Plan.compileWith lookup profile p = Plan.compileWith lookup profile q := by
  rw [Plan.compileWith, Plan.compileWith, Draft.ofParams_congr same]

theorem Lookup.Resolves.unique {lookup : Lookup} {name : Option String} {id other : Option Int}
    (resolved : lookup.Resolves name id) (again : lookup.Resolves name other) : id = other := by
  cases name with
  | none => exact resolved.trans again.symm
  | some name =>
    obtain ⟨found, answered, rfl⟩ := resolved
    obtain ⟨found', answered', rfl⟩ := again
    rw [Steps.ok_unique rfl answered answered']

namespace Plan.CompiledFrom

variable {lookup lookup' : Lookup} {profile : Profile} {p q : Params} {plan part : Plan}

theorem projects_eq (left : plan.CompiledFrom lookup profile p)
    (right : part.CompiledFrom lookup' profile q) (selected : p.terms "select" = q.terms "select")
    (included : p.terms "include" = q.terms "include") :
    plan.projection = part.projection ∧ plan.relations = part.relations := by
  obtain ⟨relations, accepted, attached, projected⟩ := left.projects
  obtain ⟨relations', accepted', attached', projected'⟩ := right.projects
  rw [Query.relations_congr included, accepted'] at accepted
  cases accepted
  rw [projected, projected', attached, attached', Query.selection_congr selected]
  exact ⟨rfl, rfl⟩

theorem order_eq (left : plan.CompiledFrom lookup profile p)
    (right : part.CompiledFrom lookup' profile q)
    (same : p.terms "order_by" = q.terms "order_by") : plan.order = part.order :=
  Steps.ok_unique (Query.order_congr same) left.order right.order

theorem offset_eq (left : plan.CompiledFrom lookup profile p)
    (right : part.CompiledFrom lookup' profile q) (same : p.terms "offset" = q.terms "offset") :
    plan.offset = part.offset := by
  rw [left.offset, right.offset, Query.count?_congr same]

theorem limit_eq (left : plan.CompiledFrom lookup profile p)
    (right : part.CompiledFrom lookup' profile q) (same : p.terms "limit" = q.terms "limit") :
    plan.limit = part.limit := by
  rw [left.limit, right.limit, Query.count?_congr same]

theorem both_filter_or_neither (left : plan.CompiledFrom lookup profile p)
    (right : part.CompiledFrom lookup' profile q) :
    plan.Filters lookup p ∧ part.Filters lookup' q ∨ plan.FiltersNothing ∧ part.FiltersNothing := by
  cases filterable : profile.filterable with
  | true => exact .inl ⟨left.filters filterable, right.filters filterable⟩
  | false => exact .inr ⟨left.filtersNothing filterable, right.filtersNothing filterable⟩

theorem priceRange_eq (left : plan.CompiledFrom lookup profile p)
    (right : part.CompiledFrom lookup' profile q) (same : p.terms "price" = q.terms "price") :
    plan.priceRange = part.priceRange := by
  rcases left.both_filter_or_neither right with ⟨mine, yours⟩ | ⟨mine, yours⟩
  · exact Steps.ok_unique (Query.range?_congr .price same) mine.priceRange yours.priceRange
  · rw [mine.priceRange, yours.priceRange]

theorem stockRange_eq (left : plan.CompiledFrom lookup profile p)
    (right : part.CompiledFrom lookup' profile q) (same : p.terms "stock" = q.terms "stock") :
    plan.stockRange = part.stockRange := by
  rcases left.both_filter_or_neither right with ⟨mine, yours⟩ | ⟨mine, yours⟩
  · exact Steps.ok_unique (Query.range?_congr .stock same) mine.stockRange yours.stockRange
  · rw [mine.stockRange, yours.stockRange]

theorem searchTerm_eq (left : plan.CompiledFrom lookup profile p)
    (right : part.CompiledFrom lookup' profile q) (same : p.terms "search" = q.terms "search")
    (short : p.terms "q" = q.terms "q") : plan.searchTerm = part.searchTerm := by
  rcases left.both_filter_or_neither right with ⟨mine, yours⟩ | ⟨mine, yours⟩
  · rw [mine.searchTerm, yours.searchTerm, Query.searchTerm?_congr same short]
  · rw [mine.searchTerm, yours.searchTerm]

theorem categoryId_eq (left : plan.CompiledFrom lookup profile p)
    (right : part.CompiledFrom lookup profile q)
    (same : p.terms "category" = q.terms "category") : plan.categoryId = part.categoryId := by
  rcases left.both_filter_or_neither right with ⟨mine, yours⟩ | ⟨mine, yours⟩
  · have resolved := mine.categoryId
    rw [Params.text?_congr same] at resolved
    exact resolved.unique yours.categoryId
  · rw [mine.categoryId, yours.categoryId]

theorem featuredOnly_eq (left : plan.CompiledFrom lookup profile p)
    (right : part.CompiledFrom lookup' profile q) : plan.featuredOnly = part.featuredOnly := by
  rw [left.featuredOnly, right.featuredOnly]

end Plan.CompiledFrom
end Catalog
