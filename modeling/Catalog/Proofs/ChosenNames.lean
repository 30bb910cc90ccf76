import Catalog.Proofs.CommaList
import Catalog.Proofs.MarkedNames
import Mathlib.Data.List.Sort

set_option autoImplicit false

namespace Catalog

namespace Text

variable {list : String} {tokens : List String}

-- The tokens are the pieces between the commas, trimmed, of which nothing may be left.
def HasTokens (list : String) (tokens : List String) : Prop :=
  ∃ pieces, pieces ≠ [] ∧ (∀ piece ∈ pieces, ',' ∉ piece.toList) ∧
    list = String.intercalate "," pieces ∧ tokens = nonBlank pieces

theorem members_of_no_comma {piece : String} (clean : ',' ∉ piece.toList) :
    members piece = nonBlank [piece] := by
  rw [members_eq_membersOf, membersOf_of_no_comma clean, String.ofList_toList]

theorem flatMap_members_of_no_comma {pieces : List String}
    (clean : ∀ piece ∈ pieces, ',' ∉ piece.toList) : pieces.flatMap members = nonBlank pieces := by
  induction pieces with
  | nil => rfl
  | cons first rest ih =>
    obtain ⟨here, later⟩ := List.forall_mem_cons.mp clean
    rw [List.flatMap_cons, ih later, members_of_no_comma here, ← nonBlank_append]
    rfl

theorem intercalate_splitAt (list : String) :
    String.intercalate "," (splitAt ',' list) = list := by
  have pieces : (splitAt ',' list).map String.toList = list.toList.splitOn ',' := by
    simp [splitAt, Function.comp_def]
  rw [← String.toList_inj, String.toList_intercalate, pieces]
  exact List.intercalate_splitOn ','

theorem hasTokens_iff : HasTokens list tokens ↔ tokens = members list := by
  constructor
  · rintro ⟨pieces, -, clean, rfl, rfl⟩
    rw [members_intercalate, flatMap_members_of_no_comma clean]
  · rintro rfl
    refine ⟨splitAt ',' list, ?_, ?_, (intercalate_splitAt list).symm, rfl⟩
    · simp [splitAt, List.splitOn_ne_nil]
    · intro piece member
      obtain ⟨cs, inside, rfl⟩ := List.mem_map.mp member
      rw [String.toList_ofList]
      exact not_mem_of_mem_splitOn inside

end Text

namespace Flags

variable {f g : Flags} {names allowed tokens : List String} {list name : String}

theorem Marks.unique (marks : f.Marks names) (others : g.Marks names) : f = g := by
  have sorted (f : Flags) : f.names.Pairwise (· < ·) := List.pairwise_map.mpr f.sorted
  have same : f.names = g.names := by
    apply (sorted f).eq_of_mem_iff (sorted g)
    intro name
    rw [marks.mem_names, others.mem_names]
  have entries : f.entries = g.entries := by rw [marks.entries_eq, others.entries_eq, same]
  rwa [← mk.injEq] at entries

theorem Marks.congr {others : List String} (marks : f.Marks names)
    (same : ∀ name, name ∈ others ↔ name ∈ names) : f.Marks others := by
  intro name
  simp only [marks name, same]

theorem eq_select_iff :
    f = select allowed list ↔ f.Marks ((Text.members list).filter (allowed.contains ·)) := by
  constructor
  · rintro rfl
    exact marks_select allowed list
  · intro marks
    exact marks.unique (marks_select allowed list)

theorem select_congr {other : String}
    (same : ∀ token, token ∈ Text.members other ↔ token ∈ Text.members list) :
    select allowed other = select allowed list := by
  apply (marks_select allowed other).unique
  apply (marks_select allowed list).congr
  intro name
  simp only [List.mem_filter, same]

theorem require_eq_ok_iff_select : require allowed list = .ok f ↔
    (∀ token ∈ Text.members list, token ∈ allowed) ∧ f = select allowed list := by
  rw [require_eq_ok_iff]
  refine and_congr_right fun known => ?_
  have all : (Text.members list).filter (allowed.contains ·) = Text.members list :=
    List.filter_eq_self.mpr fun token member => by simpa using known token member
  rw [select, all]

theorem require_eq_error_iff : require allowed list = .error name ↔
    ∃ before after, Text.members list = before ++ name :: after ∧ name ∉ allowed ∧
      ∀ earlier ∈ before, earlier ∈ allowed := by
  have first : require allowed list = .error name ↔
      (Text.members list).find? (!allowed.contains ·) = some name := by
    unfold require
    cases (Text.members list).find? (!allowed.contains ·) <;> simp
  rw [first, List.find?_eq_some_iff_append]
  simp only [Bool.not_eq_true', List.contains_eq_mem, decide_eq_false_iff_not, Bool.not_not,
    decide_eq_true_eq]
  constructor
  · rintro ⟨unknown, before, after, split, known⟩
    exact ⟨before, after, split, unknown, known⟩
  · rintro ⟨before, after, split, unknown, known⟩
    exact ⟨unknown, before, after, split, known⟩

structure ChosenFrom (allowed : List String) (list : String) (tokens : List String) : Prop where
  permissive : ∀ f, f = select allowed list ↔
    ∀ name, f.get? name = if name ∈ allowed ∧ name ∈ tokens then some true else none
  strict : ∀ f, require allowed list = .ok f ↔
    (∀ token ∈ tokens, token ∈ allowed) ∧ f = select allowed list
  refused : ∀ name, require allowed list = .error name ↔
    ∃ before after, tokens = before ++ name :: after ∧ name ∉ allowed ∧
      ∀ earlier ∈ before, earlier ∈ allowed
  within : ∀ f, f = select allowed list ∨ require allowed list = .ok f →
    ∀ name ∈ f.names, name ∈ allowed
  sameTokens : ∀ other others, Text.HasTokens other others → (∀ t, t ∈ others ↔ t ∈ tokens) →
    select allowed other = select allowed list ∧
      ∀ f, require allowed other = .ok f ↔ require allowed list = .ok f

theorem mem_of_mem_select (member : name ∈ (select allowed list).names) : name ∈ allowed := by
  have chosen := (marks_select allowed list).mem_names.mp member
  simpa using (List.mem_filter.mp chosen).2

theorem whitelist_modes_agree (allowed : List String) (list : String) :
    ∃ tokens, Text.HasTokens list tokens ∧ ChosenFrom allowed list tokens := by
  refine ⟨Text.members list, Text.hasTokens_iff.mpr rfl, {
    permissive := ?_
    strict := fun f => require_eq_ok_iff_select
    refused := fun name => require_eq_error_iff
    within := ?_
    sameTokens := ?_ }⟩
  · intro f
    rw [eq_select_iff]
    simp only [Marks, List.mem_filter, List.contains_eq_mem, decide_eq_true_eq, and_comm]
  · rintro f (rfl | accepted) name member
    · exact mem_of_mem_select member
    · obtain ⟨-, rfl⟩ := require_eq_ok_iff_select.mp accepted
      exact mem_of_mem_select member
  · intro other others hasTokens same
    rw [Text.hasTokens_iff.mp hasTokens] at same
    refine ⟨select_congr same, ?_⟩
    intro f
    simp only [require_eq_ok_iff_select, same, select_congr same]

end Flags
end Catalog
