import Catalog.Profile

set_option autoImplicit false

namespace Catalog

theorem lookup_of_mem_of_nodup {α : Type} {entries : List (String × α)} {e : String × α}
    (member : e ∈ entries) (nodup : (entries.map (·.1)).Nodup) : entries.lookup e.1 = some e.2 := by
  obtain ⟨before, after, rfl⟩ := List.append_of_mem member
  rw [List.map_append, List.map_cons, List.nodup_append] at nodup
  refine List.lookup_eq_some_iff.mpr ⟨before, after, rfl, ?_⟩
  intro earlier inside
  have apart := nodup.2.2 earlier.1 (List.mem_map_of_mem inside) e.1 List.mem_cons_self
  simpa using apart.symm

namespace Flags

def Marks (f : Flags) (names : List String) : Prop :=
  ∀ k, f.get? k = if k ∈ names then some true else none

theorem get?_of_mem_entries {f : Flags} {e : String × Bool} (member : e ∈ f.entries) :
    f.get? e.1 = some e.2 := by
  apply lookup_of_mem_of_nodup member
  exact List.pairwise_map.mpr (f.sorted.imp String.ne_of_lt)

theorem mem_names_iff {f : Flags} {k : String} : k ∈ f.names ↔ ∃ value, f.get? k = some value := by
  constructor
  · intro member
    obtain ⟨e, inside, rfl⟩ := List.mem_map.mp member
    exact ⟨e.2, get?_of_mem_entries inside⟩
  · rintro ⟨value, found⟩
    obtain ⟨before, after, split, -⟩ := List.lookup_eq_some_iff.mp found
    exact List.mem_map.mpr ⟨(k, value), by simp [split], rfl⟩

theorem marks_empty : (∅ : Flags).Marks [] := by
  intro k
  simp

theorem marks_allSet (names : List String) : (allSet names).Marks names :=
  get?_allSet names

theorem marks_select (allowed : List String) (list : String) :
    (select allowed list).Marks ((Text.members list).filter (allowed.contains ·)) :=
  marks_allSet _

-- The names are taken as they stand, so a wider choice of allowed names makes no other flags.
theorem require_eq_ok_iff {allowed : List String} {list : String} {f : Flags} :
    require allowed list = .ok f ↔
      (∀ name ∈ Text.members list, name ∈ allowed) ∧ f = allSet (Text.members list) := by
  unfold require
  split
  next name found =>
    have refused := List.find?_some found
    have member := List.mem_of_find?_eq_some found
    constructor
    · intro accepted
      cases accepted
    · rintro ⟨known, -⟩
      simp [known name member] at refused
  next known =>
    have all : ∀ name ∈ Text.members list, name ∈ allowed := by
      intro name member
      simpa using List.find?_eq_none.mp known name member
    rw [Except.ok.injEq]
    exact ⟨fun same => ⟨all, same.symm⟩, fun same => same.2.symm⟩

section Marked

variable {f g : Flags} {names others : List String}

theorem Marks.mem_names (marks : f.Marks names) {k : String} : k ∈ f.names ↔ k ∈ names := by
  rw [mem_names_iff, marks k]
  by_cases member : k ∈ names <;> simp [member]

theorem Marks.isSet_iff (marks : f.Marks names) {k : String} : f.isSet k = true ↔ k ∈ names := by
  rw [isSet, marks k]
  by_cases member : k ∈ names <;> simp [member]

theorem Marks.value_of_mem (marks : f.Marks names) {e : String × Bool} (member : e ∈ f.entries) :
    e.2 = true := by
  have found := get?_of_mem_entries member
  rw [marks e.1] at found
  split at found
  next => exact (Option.some.inj found).symm
  next => cases found

theorem Marks.name_of_mem (marks : f.Marks names) {e : String × Bool} (member : e ∈ f.entries) :
    e.1 ∈ names :=
  marks.mem_names.mp (List.mem_map_of_mem member)

theorem Marks.entries_eq (marks : f.Marks names) :
    f.entries = f.names.map fun name => (name, true) := by
  rw [Flags.names, List.map_map]
  refine (List.map_id _).symm.trans (List.map_congr_left ?_)
  intro e member
  simp [← marks.value_of_mem member]

theorem Marks.isEmpty_iff (marks : f.Marks names) : f.isEmpty = true ↔ names = [] := by
  have unnamed : f.isEmpty = true ↔ f.names = [] := by simp [Flags.isEmpty, Flags.names]
  rw [unnamed, List.eq_nil_iff_forall_not_mem, List.eq_nil_iff_forall_not_mem]
  simp only [marks.mem_names]

theorem Marks.entries_ne_nil (marks : f.Marks names) (nonempty : names ≠ []) : f.entries ≠ [] := by
  intro nothing
  apply nonempty
  rw [← marks.isEmpty_iff, isEmpty, nothing]
  rfl

theorem Marks.union (left : f.Marks names) (right : g.Marks others) :
    (f.union g).Marks (names ++ others) := by
  intro k
  rw [Flags.union, right.entries_eq, get?_foldl_insert_true, left k]
  simp only [right.mem_names, List.mem_append]
  by_cases before : k ∈ names <;> by_cases after : k ∈ others <;> simp [before, after]

end Marked

end Flags
end Catalog
