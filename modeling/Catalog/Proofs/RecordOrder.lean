import Catalog.Record
import Catalog.Proofs.Utf8Order
import Mathlib.Data.Prod.Lex
import Mathlib.Order.Compare

set_option autoImplicit false

namespace Catalog

namespace Json

-- Kinds first; then numbers by their total order, and texts by their bytes.
def place : Option Json → ℕ ×ₗ ℤ ×ₗ List ℕ
  | none | some .null => toLex (0, toLex (0, []))
  | some (.bool b) => toLex (1, toLex (if b then 1 else 0, []))
  | some (.int n) => toLex (2, toLex ((Binary64.ofInt n).totalPlace, []))
  | some (.float x) => toLex (2, toLex (x.totalPlace, []))
  | some (.str s) => toLex (3, toLex (0, Utf8.bytes s))
  | some (.arr _) | some (.obj _) => toLex (4, toLex (0, []))

def within (v : Option Json) : ℤ ×ₗ List ℕ := (ofLex (place v)).2

theorem place_eq (v : Option Json) : place v = toLex (kindRank v, within v) := by
  rcases v with _ | _ | _ | _ | _ | _ | _ | _ <;> rfl

theorem number_of_numberPlace? {v : Option Json} {n : ℤ}
    (number : v.bind numberPlace? = some n) : kindRank v = 2 ∧ within v = toLex (n, []) := by
  obtain ⟨value, rfl, number⟩ := Option.bind_eq_some_iff.mp number
  cases value with
  | int n =>
    cases number
    exact ⟨rfl, rfl⟩
  | float x =>
    cases number
    exact ⟨rfl, rfl⟩
  | _ => cases number

theorem cmp_toLex {α β : Type} [LinearOrder α] [LinearOrder β] (a a' : α) (b b' : β) :
    cmp (toLex (a, b)) (toLex (a', b')) = (cmp a a').then (cmp b b') := by
  rw [cmp_eq_compare, cmp_eq_compare, cmp_eq_compare]
  rfl

theorem compareValues_eq_cmp (a b : Option Json) : compareValues a b = cmp (place a) (place b) := by
  rw [place_eq, place_eq, cmp_toLex]
  generalize joined : (cmp (kindRank a) (kindRank b)).then (cmp (within a) (within b)) = order
  unfold compareValues
  split
  next x y =>
    rw [← joined]
    cases x <;> cases y <;> decide
  next x y =>
    change (cmp 3 3).then (cmp (toLex (0, Utf8.bytes x)) (toLex (0, Utf8.bytes y))) = _ at joined
    rw [← joined, cmp_toLex, cmp_self_eq_eq, cmp_self_eq_eq, Utf8.strictMono_bytes.cmp_map_eq,
      cmp_eq_compare]
    rfl
  next notBools notTexts =>
    split
    next x y first second =>
      obtain ⟨kind, number⟩ := number_of_numberPlace? first
      obtain ⟨kind', number'⟩ := number_of_numberPlace? second
      rw [← joined, kind, kind', number, number', cmp_toLex, cmp_self_eq_eq, cmp_self_eq_eq,
        cmp_eq_compare]
      cases compare x y <;> rfl
    next notNumbers =>
      rw [← joined, ← cmp_eq_compare]
      by_cases same : kindRank a = kindRank b
      -- of one kind, and yet not both booleans, texts or numbers
      · have alike : within a = within b := by
          clear joined
          rcases a with _ | _ | _ | _ | _ | _ | _ | _ <;>
            rcases b with _ | _ | _ | _ | _ | _ | _ | _ <;>
              simp_all [kindRank, numberPlace?, within, place]
        rw [same, alike, cmp_self_eq_eq, cmp_self_eq_eq]
        rfl
      · rcases lt_or_gt_of_ne same with less | more
        · rw [less.cmp_eq_lt]
          rfl
        · rw [more.cmp_eq_gt]
          rfl

theorem isLE_cmp_iff {α : Type} [LinearOrder α] {x y : α} : (cmp x y).isLE = true ↔ x ≤ y := by
  rw [← Ordering.ne_gt_iff_isLE, cmp_eq_gt_iff, not_lt]

instance transCmp_compareValues : Std.TransCmp compareValues where
  eq_swap := by
    intro a b
    rw [compareValues_eq_cmp, compareValues_eq_cmp, cmp_swap]
  isLE_trans := by
    intro a b c first second
    rw [compareValues_eq_cmp, isLE_cmp_iff] at first second ⊢
    exact le_trans first second

end Json

namespace OrderKey

variable {key : OrderKey} {keys : List OrderKey} {a b : Record}

def Ties (key : OrderKey) (a b : Record) : Prop :=
  Json.place (a.get? key.field) = Json.place (b.get? key.field)

def Precedes (key : OrderKey) (a b : Record) : Prop :=
  match key.direction with
  | .ascending => Json.place (a.get? key.field) < Json.place (b.get? key.field)
  | .descending => Json.place (b.get? key.field) < Json.place (a.get? key.field)

theorem compareRecords_ascending {field : String} :
    (OrderKey.mk field .ascending).compareRecords a b =
      cmp (Json.place (a.get? field)) (Json.place (b.get? field)) :=
  Json.compareValues_eq_cmp _ _

theorem compareRecords_descending {field : String} :
    (OrderKey.mk field .descending).compareRecords a b =
      cmp (Json.place (b.get? field)) (Json.place (a.get? field)) := by
  rw [← cmp_swap, ← Json.compareValues_eq_cmp]
  rfl

theorem compareRecords_eq_eq_iff : key.compareRecords a b = .eq ↔ key.Ties a b := by
  obtain ⟨field, direction⟩ := key
  cases direction with
  | ascending => rw [compareRecords_ascending, cmp_eq_eq_iff, Ties]
  | descending => rw [compareRecords_descending, cmp_eq_eq_iff, Ties, eq_comm]

theorem compareRecords_eq_lt_iff : key.compareRecords a b = .lt ↔ key.Precedes a b := by
  obtain ⟨field, direction⟩ := key
  cases direction with
  | ascending => rw [compareRecords_ascending, cmp_eq_lt_iff, Precedes]
  | descending => rw [compareRecords_descending, cmp_eq_lt_iff, Precedes]

def SortsBefore (keys : List OrderKey) (a b : Record) : Prop :=
  ∃ earlier key later, keys = earlier ++ key :: later ∧
    (∀ other ∈ earlier, other.Ties a b) ∧ key.Precedes a b

def AllTie (keys : List OrderKey) (a b : Record) : Prop := ∀ key ∈ keys, key.Ties a b

theorem compareBy_eq_eq_iff : compareBy keys a b = .eq ↔ AllTie keys a b := by
  induction keys with
  | nil => simp [compareBy, AllTie]
  | cons key rest ih =>
    rw [compareBy, Ordering.then_eq_eq, compareRecords_eq_eq_iff, ih, AllTie, AllTie,
      List.forall_mem_cons]

theorem not_sortsBefore_nil : ¬ SortsBefore [] a b := by
  rintro ⟨earlier, key, later, split, -⟩
  exact List.append_ne_nil_of_right_ne_nil earlier (List.cons_ne_nil key later) split.symm

theorem sortsBefore_cons_iff :
    SortsBefore (key :: keys) a b ↔ key.Precedes a b ∨ key.Ties a b ∧ SortsBefore keys a b := by
  constructor
  · rintro ⟨earlier, decisive, later, split, ties, precedes⟩
    cases earlier with
    | nil =>
      obtain ⟨rfl, -⟩ := List.cons.inj split
      exact .inl precedes
    | cons other earlier =>
      obtain ⟨rfl, others⟩ := List.cons.inj split
      rw [List.forall_mem_cons] at ties
      exact .inr ⟨ties.1, earlier, decisive, later, others, ties.2, precedes⟩
  · rintro (precedes | ⟨tie, earlier, decisive, later, rfl, ties, precedes⟩)
    · exact ⟨[], key, keys, rfl, by simp, precedes⟩
    · exact ⟨key :: earlier, decisive, later, rfl, List.forall_mem_cons.mpr ⟨tie, ties⟩, precedes⟩

theorem compareBy_eq_lt_iff : compareBy keys a b = .lt ↔ SortsBefore keys a b := by
  induction keys with
  | nil => simp [compareBy, not_sortsBefore_nil]
  | cons key rest ih =>
    rw [compareBy, Ordering.then_eq_lt, compareRecords_eq_lt_iff, compareRecords_eq_eq_iff, ih,
      sortsBefore_cons_iff]

instance transCmp_compareRecords (key : OrderKey) : Std.TransCmp key.compareRecords := by
  obtain ⟨field, direction⟩ := key
  cases direction with
  | ascending =>
    have ordered : Std.TransCmp Json.compareValues := inferInstance
    exact { eq_swap := ordered.eq_swap, isLE_trans := ordered.isLE_trans }
  | descending =>
    refine { eq_swap := ?_, isLE_trans := ?_ }
    · intro a b
      rw [compareRecords_descending, compareRecords_descending, cmp_swap]
    · intro a b c first second
      rw [compareRecords_descending, Json.isLE_cmp_iff] at first second ⊢
      exact le_trans second first

instance transCmp_compareBy (keys : List OrderKey) : Std.TransCmp (compareBy keys) := by
  induction keys with
  | nil => exact { eq_swap := rfl, isLE_trans := fun _ _ => rfl }
  | cons key rest ih =>
    exact inferInstanceAs (Std.TransCmp (compareLex key.compareRecords (compareBy rest)))

theorem notAfter_trans (a b c : Record) (first : notAfter keys a b = true)
    (second : notAfter keys b c = true) : notAfter keys a c = true :=
  Std.TransCmp.isLE_trans first second

theorem notAfter_total (a b : Record) : (notAfter keys a b || notAfter keys b a) = true := by
  have swapped : compareBy keys b a = (compareBy keys a b).swap := Std.OrientedCmp.eq_swap
  unfold notAfter
  rw [swapped]
  cases compareBy keys a b <;> rfl

theorem isLE_compareRecords_of_notAfter (ordered : notAfter (key :: keys) a b = true) :
    (key.compareRecords a b).isLE = true := by
  unfold notAfter compareBy at ordered
  revert ordered
  cases key.compareRecords a b <;> simp [Ordering.then]

theorem notAfter_eq_true_iff : notAfter keys a b = true ↔ ¬ SortsBefore keys b a := by
  rw [notAfter, ← Ordering.ne_gt_iff_isLE, Std.OrientedCmp.gt_iff_lt, compareBy_eq_lt_iff]

theorem sortsBefore_or_allTie (keys : List OrderKey) (a b : Record) :
    SortsBefore keys a b ∨ SortsBefore keys b a ∨ AllTie keys a b := by
  have swapped : compareBy keys b a = (compareBy keys a b).swap := Std.OrientedCmp.eq_swap
  rw [← compareBy_eq_lt_iff, ← compareBy_eq_lt_iff, ← compareBy_eq_eq_iff, swapped]
  cases compareBy keys a b <;> simp

end OrderKey
end Catalog
