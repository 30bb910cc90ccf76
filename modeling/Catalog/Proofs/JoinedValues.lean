import Catalog.Proofs.Pages
import Catalog.Proofs.ReadKeys

set_option autoImplicit false

namespace Catalog

namespace Params

variable {pairs joined : List (String × String)} {key : String}

theorem members?_eq (p : Params) (key : String) :
    p.members? key = if p.terms key = [] then none else some (p.members key) := by
  cases given : p.list? key with
  | none => rw [members?, given, if_pos (list?_eq_none_iff.mp given), Option.map_none]
  | some list =>
    have nonempty : p.terms key ≠ [] := by
      intro blank
      rw [list?_eq_none_iff.mpr blank] at given
      cases given
    rw [members?, given, if_neg nonempty, Option.map_some, members_of_list? given]

structure JoinsValues (key : String) (pairs joined : List (String × String)) : Prop where
  own : joined.filter (·.1 = key) =
    [(key, String.intercalate "," ((pairs.filter (·.1 = key)).map (·.2)))]
  others : dropping [key] joined = dropping [key] pairs

theorem JoinsValues.given_eq (joins : JoinsValues key pairs joined) {other : String}
    (apart : other ≠ key) : given joined other = given pairs other := by
  have kept : other ∉ [key] := by simpa using apart
  have same := congrArg (given · other) joins.others
  simpa only [given_dropping, if_neg kept] using same

theorem JoinsValues.members_eq (joins : JoinsValues key pairs joined) :
    (ofPairs joined).members key = (ofPairs pairs).members key := by
  rw [members, members, values_ofPairs, values_ofPairs, joins.own, List.map_singleton,
    List.flatMap_singleton, Text.members_intercalate]

theorem JoinsValues.members?_eq (joins : JoinsValues key pairs joined)
    (given : ∃ pair ∈ pairs, pair.1 = key ∧ Text.trim pair.2 ≠ "") :
    (ofPairs joined).members? key = (ofPairs pairs).members? key := by
  obtain ⟨⟨k, v⟩, member, rfl, visible⟩ := given
  have value : v ∈ (pairs.filter (·.1 = k)).map (·.2) :=
    List.mem_map.mpr ⟨(k, v), List.mem_filter.mpr ⟨member, by simp⟩, rfl⟩
  have before : (ofPairs pairs).terms k ≠ [] := by
    apply List.ne_nil_of_mem (a := Text.trim v)
    rw [terms, values_ofPairs, Text.mem_nonBlank]
    exact ⟨⟨v, value, rfl⟩, visible⟩
  have after : (ofPairs joined).terms k ≠ [] := by
    have shown : Text.trim (String.intercalate "," ((pairs.filter (·.1 = k)).map (·.2))) ≠ "" :=
      Text.trim_intercalate_ne_empty value visible
    rw [terms, values_ofPairs, joins.own]
    simp [Text.nonBlank, shown]
  rw [Params.members?_eq, Params.members?_eq, if_neg before, if_neg after, joins.members_eq]

end Params

namespace Plan

theorem compile_of_joinedValues {key : String} {pairs joined : List (String × String)}
    (listKey : key ∈ Query.listKeys) (joins : Params.JoinsValues key pairs joined)
    (given : ∃ pair ∈ pairs, pair.1 = key ∧ Text.trim pair.2 ≠ "") (lookup : Lookup)
    (profile : Profile) :
    compile lookup profile (Params.ofPairs joined) =
      compile lookup profile (Params.ofPairs pairs) := by
  have same {other : String} (apart : other ≠ key) :
      (Params.ofPairs joined).terms other = (Params.ofPairs pairs).terms other := by
    rw [Params.terms_ofPairs, Params.terms_ofPairs, joins.given_eq apart]
  have drafted : Draft.ofParams profile (Params.ofPairs joined) =
      Draft.ofParams profile (Params.ofPairs pairs) := by
    apply Draft.ofParams_congr_members
    · intro other _
      by_cases own : other = key
      · rw [own, joins.members?_eq given]
      · exact Params.members?_congr (same own)
    · intro other _ single
      apply same
      rintro rfl
      exact single listKey
  rw [compile, compile, compileWith, compileWith, drafted]

def repeatedFields : List (String × String) :=
  [("select", "id "), ("q", "red"), ("select", "\u2003"), ("select", "name,,price")]

def joinedFields : List (String × String) :=
  [("q", "red"), ("select", "id ,\u2003,name,,price")]

theorem compile_of_joinedValues_fields :
    "select" ∈ Query.listKeys ∧ Params.JoinsValues "select" repeatedFields joinedFields ∧
      (∃ pair ∈ repeatedFields, pair.1 = "select" ∧ Text.trim pair.2 ≠ "") ∧
      compile Store.shoeShop.lookup .product (Params.ofPairs joinedFields) =
        compile Store.shoeShop.lookup .product (Params.ofPairs repeatedFields) := by
  have listKey : "select" ∈ Query.listKeys := by decide
  have joins : Params.JoinsValues "select" repeatedFields joinedFields := by
    constructor <;> decide
  have given : ∃ pair ∈ repeatedFields, pair.1 = "select" ∧ Text.trim pair.2 ≠ "" := by decide
  exact ⟨listKey, joins, given,
    compile_of_joinedValues listKey joins given Store.shoeShop.lookup .product⟩

end Plan
end Catalog
