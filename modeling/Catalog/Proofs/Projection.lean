import Catalog.Proofs.Compilation
import Catalog.Proofs.MarkedNames
import Catalog.Proofs.Parameters

set_option autoImplicit false

namespace Catalog

namespace Query

theorem relations_eq_ok_iff {allowed : List String} {params : Params} {f : Flags} :
    relations allowed params = .ok f ↔
      (∀ name ∈ params.members "include", name ∈ allowed) ∧
        f = Flags.allSet (params.members "include") := by
  unfold relations
  split
  next blank =>
    have none : ∀ name ∈ ([] : List String), name ∈ allowed := by simp
    rw [Params.members_of_list?_none blank, Except.ok.injEq]
    exact ⟨fun same => ⟨none, same.symm⟩, fun same => same.2.symm⟩
  next list given =>
    rw [← Params.members_of_list? given, Steps.mapError_eq_ok, Flags.require_eq_ok_iff]

theorem relations_ok {allowed : List String} {params : Params} {f : Flags}
    (accepted : relations allowed params = .ok f) :
    f.Marks (params.members "include") ∧ ∀ name ∈ params.members "include", name ∈ allowed := by
  obtain ⟨known, rfl⟩ := relations_eq_ok_iff.mp accepted
  exact ⟨Flags.marks_allSet _, known⟩

variable {profile : Profile} {params : Params} {f relations : Flags}

def selected (profile : Profile) (params : Params) : List String :=
  (params.members "select").filter (profile.scalars.contains ·)

theorem selection_eq_none_iff : selection profile params = none ↔ params.terms "select" = [] := by
  rw [selection, Option.map_eq_none_iff, Params.list?_eq_none_iff]

theorem marks_selected (chosen : selection profile params = some f) :
    f.Marks (selected profile params) := by
  obtain ⟨list, given, rfl⟩ := Option.map_eq_some_iff.mp chosen
  rw [selected, ← Params.members_of_list? given]
  exact Flags.marks_select profile.scalars list

def shown (profile : Profile) (params : Params) : List String :=
  (if params.terms "select" = [] then profile.scalars else selected profile params) ++
    params.members "include"

theorem marks_chosen :
    ((selection profile params).getD profile.allScalars).Marks
      (if params.terms "select" = [] then profile.scalars else selected profile params) := by
  cases chosen : selection profile params with
  | none =>
    rw [if_pos (selection_eq_none_iff.mp chosen)]
    exact Flags.marks_allSet profile.scalars
  | some f =>
    have given : params.terms "select" ≠ [] := by
      intro blank
      rw [selection_eq_none_iff.mpr blank] at chosen
      cases chosen
    rw [if_neg given]
    exact marks_selected chosen

theorem marks_shown (marks : relations.Marks (params.members "include"))
    (projected : projection profile (selection profile params) relations = some f) :
    f.Marks (shown profile params) ∧ shown profile params ≠ [] := by
  have whole : (((selection profile params).getD profile.allScalars).union relations).Marks
      (shown profile params) := marks_chosen.union marks
  simp only [projection] at projected
  split at projected
  next => cases projected
  next =>
    split at projected
    next => cases projected
    next nonempty =>
      cases projected
      refine ⟨whole, ?_⟩
      intro nothing
      exact nonempty (whole.isEmpty_iff.mpr nothing)

theorem projection_none (marks : relations.Marks (params.members "include"))
    (unset : projection profile (selection profile params) relations = none) :
    params.members "include" = [] ∧
      (params.terms "select" = [] ∨ selected profile params = []) := by
  have whole : (((selection profile params).getD profile.allScalars).union relations).Marks
      (shown profile params) := marks_chosen.union marks
  simp only [projection] at unset
  split at unset
  next bare =>
    simp only [Bool.and_eq_true, Option.isNone_iff_eq_none] at bare
    exact ⟨marks.isEmpty_iff.mp bare.2, .inl (selection_eq_none_iff.mp bare.1)⟩
  next =>
    split at unset
    next empty =>
      have nothing := List.append_eq_nil_iff.mp (whole.isEmpty_iff.mp empty)
      refine ⟨nothing.2, ?_⟩
      by_cases blank : params.terms "select" = []
      · exact .inl blank
      · exact .inr (by simpa [blank] using nothing.1)
    next => cases unset

end Query

namespace Plan.Projects

variable {profile : Profile} {params : Params} {plan : Plan} {f : Flags}

theorem marks_relations (projects : plan.Projects profile params) :
    (plan.relations.getD ∅).Marks (params.members "include") := by
  obtain ⟨relations, included, written, -⟩ := projects
  have marks := (Query.relations_ok included).1
  rw [written]
  split
  next empty =>
    rw [marks.isEmpty_iff.mp empty]
    exact Flags.marks_empty
  next => exact marks

theorem relations_allowed (projects : plan.Projects profile params) :
    ∀ name ∈ params.members "include", name ∈ profile.relations := by
  obtain ⟨relations, included, -, -⟩ := projects
  exact (Query.relations_ok included).2

theorem relations_nonempty (projects : plan.Projects profile params)
    (attached : plan.relations = some f) : params.members "include" ≠ [] := by
  obtain ⟨relations, included, written, -⟩ := projects
  rw [written] at attached
  split at attached
  next => cases attached
  next nonempty =>
    intro nothing
    exact nonempty ((Query.relations_ok included).1.isEmpty_iff.mpr nothing)

theorem marks_projection (projects : plan.Projects profile params)
    (projected : plan.projection = some f) :
    f.Marks (Query.shown profile params) ∧ Query.shown profile params ≠ [] := by
  obtain ⟨relations, included, -, written⟩ := projects
  exact Query.marks_shown (Query.relations_ok included).1 (written.symm.trans projected)

theorem shown_allowed (projects : plan.Projects profile params) :
    ∀ name ∈ Query.shown profile params,
      name ∈ profile.scalars ∨ name ∈ profile.relations ∧ name ∈ params.members "include" := by
  intro name member
  rcases List.mem_append.mp member with scalar | relation
  · left
    split at scalar
    next => exact scalar
    next => simpa using (List.mem_filter.mp scalar).2
  · exact .inr ⟨projects.relations_allowed name relation, relation⟩

theorem unprojected (projects : plan.Projects profile params) (unset : plan.projection = none) :
    params.members "include" = [] ∧
      (params.terms "select" = [] ∨ Query.selected profile params = []) := by
  obtain ⟨relations, included, -, written⟩ := projects
  exact Query.projection_none (Query.relations_ok included).1 (written.symm.trans unset)

end Plan.Projects

end Catalog
