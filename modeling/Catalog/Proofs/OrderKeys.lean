import Catalog.OrderKey
import Catalog.Proofs.CommaList
import Catalog.Proofs.Steps

set_option autoImplicit false

namespace Catalog.OrderKey

structure NamesField (key : OrderKey) : Prop where
  nonempty : key.field ≠ ""
  noComma : ',' ∉ key.field.toList
  noBlank : ∀ c ∈ key.field.toList.head?, Text.isBlank c = false

theorem splitLast?_eq_none_iff {c : Char} {cs : List Char} :
    splitLast? c cs = none ↔ c ∉ cs := by
  induction cs with
  | nil => simp [splitLast?]
  | cons x rest ih =>
    unfold splitLast?
    split
    next left right later =>
      have inside : c ∈ rest := by
        by_contra absent
        rw [ih.mpr absent] at later
        cases later
      simp [inside]
    next absent =>
      have outside : c ∉ rest := ih.mp absent
      by_cases same : x = c
      · simp [same]
      · simp [same, Ne.symm same, outside]

theorem splitLast?_append {c : Char} {after : List Char} (last : c ∉ after)
    (before : List Char) : splitLast? c (before ++ c :: after) = some (before, after) := by
  induction before with
  | nil =>
    rw [List.nil_append, splitLast?, splitLast?_eq_none_iff.mpr last]
    exact if_pos rfl
  | cons x before ih => rw [List.cons_append, splitLast?, ih]

theorem splitLast?_eq_some_iff {c : Char} {cs before after : List Char} :
    splitLast? c cs = some (before, after) ↔ cs = before ++ c :: after ∧ c ∉ after := by
  constructor
  · intro split
    by_cases inside : c ∈ cs
    · -- what stands behind the last one, seen from the end
      obtain ⟨behind, front, reversed, last⟩ :=
        List.eq_append_cons_of_mem (List.mem_reverse.mpr inside)
      have parts : cs = front.reverse ++ c :: behind.reverse := by
        simpa using congrArg List.reverse reversed
      have last : c ∉ behind.reverse := by simpa using last
      rw [parts, splitLast?_append last] at split
      cases split
      exact ⟨parts, last⟩
    · rw [splitLast?_eq_none_iff.mpr inside] at split
      cases split
  · rintro ⟨rfl, last⟩
    exact splitLast?_append last before

theorem exists_append_of_read? {term : String} {key : OrderKey} (read : read? term = some key) :
    key.field ≠ "" ∧ ∃ rest, term.toList = key.field.toList ++ rest := by
  unfold read? at read
  split at read
  next =>
    split at read
    next => cases read
    next nonempty =>
      cases read
      exact ⟨nonempty, [], by simp⟩
  next field direction split =>
    split at read
    next => cases read
    next nonempty =>
      obtain ⟨found, -, rfl⟩ := Option.map_eq_some_iff.mp read
      refine ⟨?_, '.' :: direction, ?_⟩
      · simpa [← String.toList_eq_nil_iff] using nonempty
      · simpa using (splitLast?_eq_some_iff.mp split).1

theorem namesField_of_read? {list term : String} {key : OrderKey}
    (member : term ∈ Text.members list) (read : read? term = some key) : key.NamesField := by
  obtain ⟨nonempty, rest, split⟩ := exists_append_of_read? read
  have trimmed : Text.trimChars term.toList = term.toList := by
    rw [← Text.toList_trim, Text.trim_of_mem_nonBlank member]
  refine ⟨nonempty, ?_, ?_⟩
  · intro comma
    apply Text.not_comma_mem_of_mem_members member
    simp [split, comma]
  · intro c first
    apply (Text.isTrimmed_trimChars term.toList).1 c
    rw [trimmed, split]
    exact List.mem_head?_append_of_mem_head? first

theorem namesField_of_readList {list : String} {keys : List OrderKey}
    (accepted : readList list = .ok keys) : ∀ key ∈ keys, key.NamesField := by
  intro key member
  obtain ⟨term, inside, step⟩ := Steps.exists_of_mem_mapM accepted member
  split at step
  next read =>
    cases step
    exact namesField_of_read? inside read
  next => cases step

end Catalog.OrderKey
