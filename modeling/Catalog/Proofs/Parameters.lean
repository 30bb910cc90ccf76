import Catalog.Params
import Catalog.Proofs.CommaList

set_option autoImplicit false

namespace Catalog.Params

def given (pairs : List (String × String)) (key : String) : List String :=
  Text.nonBlank ((pairs.filter (·.1 = key)).map (·.2))

theorem given_append (before after : List (String × String)) (key : String) :
    given (before ++ after) key = given before key ++ given after key := by
  rw [given, List.filter_append, List.map_append, Text.nonBlank_append, given, given]

theorem given_singleton (pair : String × String) (key : String) :
    given [pair] key = if pair.1 = key then Text.nonBlank [pair.2] else [] := by
  by_cases own : pair.1 = key
  · simp [given, own]
  · simp [given, own, Text.nonBlank]

def dropping (keys : List String) (pairs : List (String × String)) : List (String × String) :=
  pairs.filter fun pair => pair.1 ∉ keys

-- Whether a pair is kept is a matter of its key, so the pairs of one key stay or go together.
theorem filter_key_filter (keep : String → Bool) (pairs : List (String × String)) (key : String) :
    (pairs.filter fun pair => keep pair.1).filter (·.1 = key) =
      if keep key then pairs.filter (·.1 = key) else [] := by
  rw [List.filter_filter]
  cases kept : keep key with
  | true =>
    apply List.filter_congr
    intro pair _
    by_cases own : pair.1 = key <;> simp [own, kept]
  | false =>
    rw [if_neg (by simp), List.filter_eq_nil_iff]
    intro pair _
    by_cases own : pair.1 = key <;> simp [own, kept]

theorem given_dropping (keys : List String) (pairs : List (String × String)) (key : String) :
    given (dropping keys pairs) key = if key ∈ keys then [] else given pairs key := by
  rw [given, dropping, filter_key_filter fun k => decide (k ∉ keys)]
  by_cases dropped : key ∈ keys
  · simp [dropped, Text.nonBlank]
  · simp [dropped, given]

def listed (pairs : List (String × String)) (key : String) : List String :=
  (pairs.filter (·.1 = key)).flatMap fun pair => Text.members pair.2

def members (p : Params) (key : String) : List String :=
  (p.values key).flatMap Text.members

theorem terms_ofPairs (pairs : List (String × String)) (key : String) :
    (ofPairs pairs).terms key = given pairs key := by
  rw [terms, values_ofPairs, given]

theorem text?_ofPairs (pairs : List (String × String)) (key : String) :
    (ofPairs pairs).text? key = (given pairs key).head? := by
  rw [text?, terms_ofPairs]

def FirstText (p : Params) (key text : String) : Prop :=
  ∃ before value after, p.values key = before ++ value :: after ∧
    (∀ earlier ∈ before, Text.trim earlier = "") ∧ Text.trim value = text ∧ text ≠ ""

theorem text?_eq_some_iff {p : Params} {key text : String} :
    p.text? key = some text ↔ p.FirstText key text := by
  rw [text?, terms, Text.nonBlank, List.head?_filter, List.find?_map, Option.map_eq_some_iff]
  simp only [List.find?_eq_some_iff_append]
  constructor
  · rintro ⟨value, ⟨given, before, after, split, blank⟩, rfl⟩
    exact ⟨before, value, after, split, by simpa using blank, rfl, by simpa using given⟩
  · rintro ⟨before, value, after, split, blank, rfl, given⟩
    exact ⟨value, ⟨by simpa using given, before, after, split, by simpa using blank⟩, rfl⟩

theorem trim_of_text? {p : Params} {key text : String} (found : p.text? key = some text) :
    Text.trim text = text ∧ text ≠ "" := by
  have member : text ∈ p.terms key := List.mem_of_head? found
  exact ⟨Text.trim_of_mem_nonBlank member, (Text.mem_nonBlank.mp member).2⟩

theorem list?_eq_none_iff {p : Params} {key : String} : p.list? key = none ↔ p.terms key = [] := by
  simp [list?, List.isEmpty_iff]

theorem members_of_list? {p : Params} {key list : String} (found : p.list? key = some list) :
    Text.members list = p.members key := by
  simp only [list?] at found
  split at found
  next => cases found
  next =>
    cases found
    rw [Text.members_intercalate, terms, Text.flatMap_members_nonBlank, members]

theorem members_of_list?_none {p : Params} {key : String} (blank : p.list? key = none) :
    p.members key = [] := by
  rw [members, ← Text.flatMap_members_nonBlank, ← terms, list?_eq_none_iff.mp blank,
    List.flatMap_nil]

end Catalog.Params
