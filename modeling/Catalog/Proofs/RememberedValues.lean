import Catalog.Proofs.Parameters

set_option autoImplicit false

namespace Catalog

namespace ParamValue

def ofValues? : List String → Option ParamValue
  | [] => none
  | [value] => some (.single value)
  | first :: second :: rest => some (.many first second rest)

@[simp] theorem ofValues?_values (p : ParamValue) : ofValues? p.values = some p := by
  cases p <;> rfl

theorem ofValues?_eq_none_iff {values : List String} : ofValues? values = none ↔ values = [] := by
  rcases values with _ | ⟨first, _ | ⟨second, rest⟩⟩ <;> simp [ofValues?]

theorem ofValues?_eq_single_iff {values : List String} {value : String} :
    ofValues? values = some (.single value) ↔ values = [value] := by
  rcases values with _ | ⟨first, _ | ⟨second, rest⟩⟩ <;> simp [ofValues?]

theorem ofValues?_eq_many_iff {values rest : List String} {first second : String} :
    ofValues? values = some (.many first second rest) ↔ values = first :: second :: rest := by
  rcases values with _ | ⟨value, _ | ⟨other, others⟩⟩ <;> simp [ofValues?]

end ParamValue

namespace Params

def arrived (inserts : List (String × String)) (key : String) : List String :=
  (inserts.filter (·.1 = key)).map (·.2)

theorem arrived_eq_nil_iff {inserts : List (String × String)} {key : String} :
    arrived inserts key = [] ↔ ∀ pair ∈ inserts, pair.1 ≠ key := by
  simp [arrived, List.filter_eq_nil_iff]

theorem arrived_filter (inserts : List (String × String)) (key : String) :
    arrived (inserts.filter (·.1 = key)) key = arrived inserts key := by
  rw [arrived, List.filter_filter]
  simp only [Bool.and_self, arrived]

theorem get?_eq_ofValues? (p : Params) (key : String) :
    p.get? key = ParamValue.ofValues? (p.values key) := by
  unfold values
  cases p.get? key with
  | none => rfl
  | some held => exact (ParamValue.ofValues?_values held).symm

theorem get?_ofPairs (inserts : List (String × String)) (key : String) :
    (ofPairs inserts).get? key = ParamValue.ofValues? (arrived inserts key) := by
  rw [get?_eq_ofValues?, values_ofPairs, arrived]

theorem intercalate_terms_eq_empty_iff (p : Params) (key : String) :
    String.intercalate "," (p.terms key) = "" ↔ p.terms key = [] := by
  constructor
  · intro blank
    rw [List.eq_nil_iff_forall_not_mem]
    intro term member
    -- a term is trimmed already, so it would still be seen in the list when that is trimmed
    have visible : Text.trim term ≠ "" := by
      rw [Text.trim_of_mem_nonBlank member]
      exact (Text.mem_nonBlank.mp member).2
    apply Text.trim_intercalate_ne_empty member visible
    rw [blank]
    rfl
  · intro none
    rw [none]
    rfl

theorem list?_eq_some_iff {p : Params} {key joined : String} :
    p.list? key = some joined ↔ joined = String.intercalate "," (p.terms key) ∧ joined ≠ "" := by
  have blank := p.intercalate_terms_eq_empty_iff key
  simp only [list?, List.isEmpty_iff]
  split
  next none =>
    have empty := blank.mpr none
    grind
  next given =>
    have visible := mt blank.mp given
    grind

structure Remembers (p : Params) (inserts : List (String × String)) (key : String) : Prop where
  never : p.get? key = none ↔ ∀ pair ∈ inserts, pair.1 ≠ key
  once : ∀ value, p.get? key = some (.single value) ↔ arrived inserts key = [value]
  repeated : ∀ first second rest, p.get? key = some (.many first second rest) ↔
    arrived inserts key = first :: second :: rest
  apart : p.get? key = (ofPairs (inserts.filter (·.1 = key))).get? key
  terms : p.terms key = ((arrived inserts key).map Text.trim).filter (· ≠ "")
  text : p.text? key = (p.terms key).head? ∧
    p.text? key = ((arrived inserts key).map Text.trim).find? (· ≠ "")
  list : ∀ joined, p.list? key = some joined ↔
    joined = String.intercalate "," (p.terms key) ∧ joined ≠ ""
  noList : p.list? key = none ↔ p.terms key = []

theorem every_value_remembered (inserts : List (String × String)) (key : String) :
    (inserts.foldl (fun p pair => p.insert pair.1 pair.2) empty).Remembers inserts key := by
  have held := get?_ofPairs inserts key
  have terms := terms_ofPairs inserts key
  change (ofPairs inserts).Remembers inserts key
  exact {
    never := by rw [held, ParamValue.ofValues?_eq_none_iff, arrived_eq_nil_iff]
    once := by
      intro value
      rw [held, ParamValue.ofValues?_eq_single_iff]
    repeated := by
      intro first second rest
      rw [held, ParamValue.ofValues?_eq_many_iff]
    apart := by rw [held, get?_ofPairs, arrived_filter]
    terms := terms
    text := by
      refine ⟨rfl, ?_⟩
      rw [text?, terms, given, Text.nonBlank, List.head?_filter, arrived]
    list := fun _ => list?_eq_some_iff
    noList := list?_eq_none_iff }

example : (ofPairs [("price", "gte_10"), ("select", "id"), ("price", "lte_50")]).get? "price" =
    some (.many "gte_10" "lte_50" []) := rfl

end Params
end Catalog
