import Catalog.Proofs.AsciiCase
import Catalog.Proofs.OrderKeys

set_option autoImplicit false

namespace Catalog

theorem Direction.ofName?_eq_some_iff {s : String} {direction : Direction} :
    ofName? s = some direction ↔ s.toLower = direction.name := by
  unfold ofName?
  rw [Text.map_asciiLower]
  simp only [String.toList_inj]
  by_cases up : s.toLower = "asc"
  · rw [if_pos up, up]
    cases direction <;> decide
  · rw [if_neg up]
    by_cases down : s.toLower = "desc"
    · rw [if_pos down, down]
      cases direction <;> decide
    · rw [if_neg down]
      cases direction with
      | ascending => simpa [name] using up
      | descending => simpa [name] using down

namespace OrderKey

-- The direction's name is in letters of either case.
inductive Spelled : String → OrderKey → Prop
  | bare {field : String} (nonempty : field ≠ "") (undotted : '.' ∉ field.toList) :
      Spelled field ⟨field, .ascending⟩
  | directed {field last : String} {direction : Direction} (nonempty : field ≠ "")
      (named : last.toLower = direction.name) :
      Spelled (field ++ "." ++ last) ⟨field, direction⟩

variable {term list : String} {key : OrderKey} {keys : List OrderKey}

theorem not_dot_mem_of_named {last : String} {direction : Direction}
    (named : last.toLower = direction.name) : '.' ∉ last.toList := by
  intro dot
  have kept : '.' ∈ direction.name.toList := by
    rw [← named, ← Text.map_asciiLower]
    exact List.mem_map.mpr ⟨'.', dot, rfl⟩
  cases direction <;> exact absurd kept (by decide)

theorem read?_eq_some_iff : read? term = some key ↔ Spelled term key := by
  constructor
  · intro read
    unfold read? at read
    split at read
    next undotted =>
      obtain ⟨nonempty, same⟩ := Option.ite_none_left_eq_some.mp read
      cases same
      exact .bare nonempty (splitLast?_eq_none_iff.mp undotted)
    next field last split =>
      obtain ⟨nonempty, read⟩ := Option.ite_none_left_eq_some.mp read
      obtain ⟨direction, named, rfl⟩ := Option.map_eq_some_iff.mp read
      have written : term = String.ofList field ++ "." ++ String.ofList last := by
        rw [← String.toList_inj]
        simpa using (splitLast?_eq_some_iff.mp split).1
      rw [written]
      exact .directed (by simpa using nonempty) (Direction.ofName?_eq_some_iff.mp named)
  · intro spelled
    cases spelled with
    | bare nonempty undotted =>
      rw [read?, splitLast?_eq_none_iff.mpr undotted]
      exact if_neg nonempty
    | @directed field last direction nonempty named =>
      have split : splitLast? '.' (field ++ "." ++ last).toList =
          some (field.toList, last.toList) := by
        rw [splitLast?_eq_some_iff]
        exact ⟨by simp, not_dot_mem_of_named named⟩
      rw [read?, split]
      simp [nonempty, Direction.ofName?_eq_some_iff.mpr named]

example : read? "size.eu.DESC" = some ⟨"size.eu", .descending⟩ := by decide

def readMember (term : String) : Except QueryError OrderKey :=
  match read? term with
  | some key => .ok key
  | none => .error (.invalidOrder term)

theorem readList_eq_mapM (list : String) :
    readList list = (Text.members list).mapM readMember := rfl

theorem readMember_eq_ok_iff : readMember term = .ok key ↔ Spelled term key := by
  rw [← read?_eq_some_iff, readMember]
  cases read? term <;> simp

theorem readMember_eq_error_iff {e : QueryError} :
    readMember term = .error e ↔ (∀ key, ¬ Spelled term key) ∧ e = .invalidOrder term := by
  simp only [← read?_eq_some_iff, readMember]
  cases read? term <;> simp [eq_comm]

theorem readList_eq_ok_iff :
    readList list = .ok keys ↔ List.Forall₂ Spelled (Text.members list) keys := by
  rw [readList_eq_mapM, Steps.mapM_eq_ok_iff]
  simp only [readMember_eq_ok_iff]

def RefusesFirst (list : String) (e : QueryError) : Prop :=
  ∃ before term after, Text.members list = before ++ term :: after ∧
    (∀ earlier ∈ before, ∃ key, Spelled earlier key) ∧ (∀ key, ¬ Spelled term key) ∧
    e = .invalidOrder term

theorem readList_eq_error_iff {e : QueryError} :
    readList list = .error e ↔ RefusesFirst list e := by
  rw [readList_eq_mapM, Steps.mapM_eq_error_iff]
  simp only [readMember_eq_ok_iff, readMember_eq_error_iff, RefusesFirst]

theorem exists_readList_iff :
    (∃ keys, readList list = .ok keys) ↔ ∀ term ∈ Text.members list, ∃ key, Spelled term key := by
  simp only [readList_eq_mapM, Steps.exists_mapM_iff, readMember_eq_ok_iff]

theorem NamesField.spelled_text (named : key.NamesField) : Spelled key.text key := by
  have read : Direction.ofName? key.direction.name = some key.direction := by
    cases key.direction <;> decide
  exact .directed named.nonempty (Direction.ofName?_eq_some_iff.mp read)

theorem NamesField.members_text (named : key.NamesField) :
    Text.members key.text = [key.text] := by
  have written : key.text.toList = key.field.toList ++ '.' :: key.direction.name.toList := by
    simp [text]
  have clean : ',' ∉ key.text.toList := by
    have directed : ',' ∉ key.direction.name.toList := by
      cases key.direction <;> decide
    simp [written, named.noComma, directed]
  have trimmed : Text.IsTrimmed key.text.toList := by
    rw [written]
    constructor
    · intro c first
      rw [List.head?_append_of_ne_nil _ (by simpa using named.nonempty)] at first
      exact named.noBlank c first
    · have last : ('.' :: key.direction.name.toList).getLast? = some 'c' := by
        cases key.direction <;> decide
      rw [List.getLast?_append_of_ne_nil _ (List.cons_ne_nil _ _), last]
      intro c same
      cases same
      decide
  have nonempty : key.text ≠ "" := by
    simp [← String.toList_eq_nil_iff, written]
  rw [Text.members_eq_membersOf, Text.membersOf_of_no_comma clean, String.ofList_toList]
  simp [Text.nonBlank, Text.trim, Text.trimChars_of_isTrimmed trimmed, nonempty]

def listText (keys : List OrderKey) : String :=
  String.intercalate "," (keys.map text)

theorem members_listText (named : ∀ key ∈ keys, key.NamesField) :
    Text.members (listText keys) = keys.map text := by
  rw [listText, Text.members_intercalate, List.flatMap_map, List.map_eq_flatMap]
  exact List.flatMap_congr fun key member => (named key member).members_text

theorem readList_listText (named : ∀ key ∈ keys, key.NamesField) :
    readList (listText keys) = .ok keys := by
  rw [readList_eq_ok_iff, members_listText named, List.forall₂_map_left_iff, List.forall₂_same]
  intro key member
  exact (named key member).spelled_text

structure ReadByGrammar (list : String) : Prop where
  keys : ∀ keys, readList list = .ok keys ↔ List.Forall₂ Spelled (Text.members list) keys
  accepted : (∃ keys, readList list = .ok keys) ↔
    ∀ term ∈ Text.members list, ∃ key, Spelled term key
  refused : ∀ e, readList list = .error e ↔ RefusesFirst list e

structure RoundTrips (keys : List OrderKey) : Prop where
  readable : (∃ list, readList list = .ok keys) ↔ ∀ key ∈ keys, key.NamesField
  written : readList (listText keys) = .ok keys ↔ ∀ key ∈ keys, key.NamesField

theorem order_lists_read_by_grammar (list : String) (keys : List OrderKey) :
    ReadByGrammar list ∧ RoundTrips keys := by
  refine ⟨⟨?_, ?_, ?_⟩, ?_, ?_⟩
  · intro keys
    exact readList_eq_ok_iff
  · exact exists_readList_iff
  · intro e
    exact readList_eq_error_iff
  · constructor
    · rintro ⟨list, accepted⟩
      exact namesField_of_readList accepted
    · intro named
      exact ⟨listText keys, readList_listText named⟩
  · exact ⟨namesField_of_readList, readList_listText⟩

end OrderKey
end Catalog
