import Mathlib.Data.List.Basic

set_option autoImplicit false

namespace Catalog.StableSort

variable {α : Type} {le : α → α → Bool}

theorem insertion_unique {row : α} {before after before' after' : List α}
    (same : before ++ after = before' ++ after')
    (smaller : ∀ b ∈ before, (!le row b) = true) (larger : ∀ b ∈ after, le row b = true)
    (smaller' : ∀ b ∈ before', (!le row b) = true) (larger' : ∀ b ∈ after', le row b = true) :
    before ++ row :: after = before' ++ row :: after' := by
  have parts {xs ys : List α} (low : ∀ b ∈ xs, (!le row b) = true)
      (high : ∀ b ∈ ys, le row b = true) :
      (xs ++ ys).filter (fun b => !le row b) = xs ∧ (xs ++ ys).filter (le row) = ys := by
    have noHigh : ys.filter (fun b => !le row b) = [] := by simpa using high
    have noLow : xs.filter (le row) = [] := by simpa using low
    rw [List.filter_append, List.filter_append, noHigh, noLow, List.filter_eq_self.mpr low,
      List.filter_eq_self.mpr high, List.append_nil, List.nil_append]
    exact ⟨rfl, rfl⟩
  obtain ⟨first, last⟩ := parts smaller larger
  obtain ⟨first', last'⟩ := parts smaller' larger'
  rw [same] at first last
  rw [← first, ← last, first', last']

theorem le_of_zipIdxLE {a b : α × Nat} (placed : List.zipIdxLE le a b = true) :
    le a.1 b.1 = true := by
  cases forth : le a.1 b.1 with
  | true => rfl
  | false => simp [List.zipIdxLE, forth] at placed

theorem number_le_of_zipIdxLE {a b : α × Nat} (placed : List.zipIdxLE le a b = true)
    (back : le b.1 a.1 = true) : a.2 ≤ b.2 := by
  simpa [List.zipIdxLE, le_of_zipIdxLE placed, back] using placed

variable (trans : ∀ a b c, le a b = true → le b c = true → le a c = true)
  (total : ∀ a b, (le a b || le b a) = true)

include trans total

theorem filter_mergeSort (keep : α → Bool) (rows : List α) :
    (rows.mergeSort le).filter keep = (rows.filter keep).mergeSort le := by
  induction rows with
  | nil => simp
  | cons row rest ih =>
    obtain ⟨before, after, whole, others, smaller⟩ := List.mergeSort_cons trans total row rest
    -- The rest is sorted alike before and after; what is open is where the first row goes.
    rw [others, List.filter_append] at ih
    cases kept : keep row with
    | false =>
      have dropped : ¬ keep row = true := by simp [kept]
      rw [List.filter_cons_of_neg dropped, ← ih, whole, List.filter_append,
        List.filter_cons_of_neg dropped]
    | true =>
      obtain ⟨before', after', whole', others', smaller'⟩ :=
        List.mergeSort_cons trans total row (rest.filter keep)
      have sorted := List.pairwise_mergeSort trans total (row :: rest)
      have sorted' := List.pairwise_mergeSort trans total (row :: rest.filter keep)
      rw [whole, List.pairwise_append, List.pairwise_cons] at sorted
      rw [whole', List.pairwise_append, List.pairwise_cons] at sorted'
      rw [List.filter_cons_of_pos kept, whole, whole', List.filter_append,
        List.filter_cons_of_pos kept]
      apply insertion_unique (ih.trans others') _ _ smaller' sorted'.2.1.1
      · intro b member
        exact smaller b (List.mem_of_mem_filter member)
      · intro b member
        exact sorted.2.1.1 b (List.mem_of_mem_filter member)

-- The last row is told from equal ones by its number, which is the largest.
theorem zipIdx_mergeSort_concat (rows : List α) (row : α) :
    ∃ before after, rows.zipIdx.mergeSort (List.zipIdxLE le) = before ++ after ∧
      (rows ++ [row]).zipIdx.mergeSort (List.zipIdxLE le) =
        before ++ (row, rows.length) :: after := by
  have numbered : (rows ++ [row]).zipIdx = rows.zipIdx ++ [(row, rows.length)] := by
    simp [List.zipIdx_append]
  have inside : (row, rows.length) ∈ (rows ++ [row]).zipIdx.mergeSort (List.zipIdxLE le) := by
    simp [List.mem_mergeSort, numbered]
  obtain ⟨before, after, whole⟩ := List.append_of_mem inside
  refine ⟨before, after, ?_, whole⟩
  have others : (before ++ after).Perm rows.zipIdx := by
    have same := List.mergeSort_perm (rows ++ [row]).zipIdx (List.zipIdxLE le)
    rw [whole, numbered] at same
    exact (List.perm_middle.symm.trans (same.trans List.perm_append_comm)).cons_inv
  let older (entry : α × Nat) : Bool := entry.2 < rows.length
  have allOlder : ∀ entry ∈ rows.zipIdx, older entry = true := by
    intro entry member
    simpa [older] using List.snd_lt_of_mem_zipIdx member
  have stay : (before ++ after).filter older = before ++ after :=
    List.filter_eq_self.mpr fun entry member => allOlder entry (others.mem_iff.mp member)
  have dropped : ¬ older (row, rows.length) = true := by simp [older]
  have kept := filter_mergeSort (List.zipIdxLE_trans trans) (List.zipIdxLE_total total) older
    (rows ++ [row]).zipIdx
  rw [whole, numbered, List.filter_append, List.filter_cons_of_neg dropped, ← List.filter_append,
    stay, List.filter_append, List.filter_eq_self.mpr allOlder, List.filter_cons_of_neg dropped,
    List.filter_nil, List.append_nil] at kept
  exact kept.symm

theorem mergeSort_concat (rows : List α) (row : α) :
    ∃ before after, rows.mergeSort le = before ++ after ∧
      (rows ++ [row]).mergeSort le = before ++ row :: after ∧
      (∀ b ∈ before, le b row = true) ∧ ∀ b ∈ after, le b row = false := by
  obtain ⟨before, after, shorter, longer⟩ := zipIdx_mergeSort_concat trans total rows row
  have sorted := List.pairwise_mergeSort (List.zipIdxLE_trans trans) (List.zipIdxLE_total total)
    (rows ++ [row]).zipIdx
  rw [longer, List.pairwise_append, List.pairwise_cons] at sorted
  obtain ⟨-, ⟨behind, -⟩, inFront⟩ := sorted
  refine ⟨before.map (·.1), after.map (·.1), ?_, ?_, ?_, ?_⟩
  · rw [← List.mergeSort_zipIdx, shorter, List.map_append]
  · rw [← List.mergeSort_zipIdx, longer, List.map_append, List.map_cons]
  · intro b member
    obtain ⟨entry, inside, rfl⟩ := List.mem_map.mp member
    exact le_of_zipIdxLE (inFront entry inside _ List.mem_cons_self)
  · intro b member
    obtain ⟨entry, inside, rfl⟩ := List.mem_map.mp member
    have older : entry.2 < rows.length := by
      have present : entry ∈ rows.zipIdx.mergeSort (List.zipIdxLE le) := by
        rw [shorter]
        exact List.mem_append_right _ inside
      simpa using List.snd_lt_of_mem_zipIdx (List.mem_mergeSort.mp present)
    cases back : le entry.1 row with
    | false => rfl
    | true =>
      have number := number_le_of_zipIdxLE (behind entry inside) back
      exact absurd older (Nat.not_lt.mpr number)

end Catalog.StableSort
