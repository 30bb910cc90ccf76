import Catalog.Proofs.ListedEntities
import Catalog.Proofs.ReachableStores

set_option autoImplicit false

namespace Catalog

theorem OrderKey.place_le_of_notAfter {field : String} {later : List OrderKey} {a b : Record}
    (ordered : notAfter (⟨field, .ascending⟩ :: later) a b = true) :
    Json.place (a.get? field) ≤ Json.place (b.get? field) := by
  rw [← Json.isLE_cmp_iff, ← compareRecords_ascending]
  exact isLE_compareRecords_of_notAfter ordered

theorem OrderKey.place_ge_of_notAfter {field : String} {later : List OrderKey} {a b : Record}
    (ordered : notAfter (⟨field, .descending⟩ :: later) a b = true) :
    Json.place (b.get? field) ≤ Json.place (a.get? field) := by
  rw [← Json.isLE_cmp_iff, ← compareRecords_descending]
  exact isLE_compareRecords_of_notAfter ordered

theorem Json.place_toJson_le_iff {x y : Instant} :
    place (some x.toJson) ≤ place (some y.toJson) ↔ x.text ≤ y.text := by
  change toLex (3, toLex (0, Utf8.bytes x.text)) ≤ toLex (3, toLex (0, Utf8.bytes y.text)) ↔ _
  rw [Prod.Lex.toLex_le_toLex, Prod.Lex.toLex_le_toLex]
  simp [Utf8.strictMono_bytes.le_iff_le]

namespace Store

variable {s : Store} {plan : Plan}

theorem get?_createdAt (relations : Flags) (p : Product) :
    (s.record relations p).get? "createdAt" = some p.createdAt.toJson := by
  rw [get?_record_of_scalar (by decide)]
  rfl

theorem get?_updatedAt (relations : Flags) (p : Product) :
    (s.record relations p).get? "updatedAt" =
      some (Json.ofOption Instant.toJson p.updatedAt) := by
  rw [get?_record_of_scalar (by decide)]
  rfl

theorem dates_listed_in_order (reachable : s.Reachable) (plan : Plan) :
    s.findProducts plan = (s.listed plan).map (s.row plan) ∧
      (∀ later, plan.order = ⟨"createdAt", .ascending⟩ :: later →
        (s.listed plan).Pairwise fun p q =>
          (p.createdAt.notAfter q.createdAt = true ↔ ¬ p.createdAt.Misplaced q.createdAt)) ∧
      ∀ later, plan.order = ⟨"updatedAt", .ascending⟩ :: later →
        (s.listed plan).Pairwise fun p q => ∀ t ∈ p.updatedAt, ∀ u ∈ q.updatedAt,
          (t.notAfter u = true ↔ ¬ t.Misplaced u) := by
  have dated {p : Product} (member : p ∈ s.listed plan) : p.Dated :=
    reachable.dated p (mem_products_of_mem_listed member)
  have sorted := s.pairwise_listed plan
  refine ⟨s.findProducts_eq_map_listed plan, ?_, ?_⟩
  · intro later first
    rw [first] at sorted
    refine sorted.imp_of_mem ?_
    intro p q before after ordered
    have placed := OrderKey.place_le_of_notAfter ordered
    rw [get?_createdAt, get?_createdAt, Json.place_toJson_le_iff] at placed
    exact Instant.notAfter_iff_not_misplaced (dated before).created (dated after).created placed
  · intro later first
    rw [first] at sorted
    refine sorted.imp_of_mem ?_
    intro p q before after ordered t set u set'
    have placed := OrderKey.place_le_of_notAfter ordered
    rw [get?_updatedAt, get?_updatedAt, Option.mem_def.mp set, Option.mem_def.mp set'] at placed
    exact Instant.notAfter_iff_not_misplaced ((dated before).updated t set)
      ((dated after).updated u set') (Json.place_toJson_le_iff.mp placed)

def newYear (year : Int) (nanosecond : Nat) : Instant := ⟨⟨year, 1, 1⟩, 0, 0, 0, nanosecond⟩

-- In the order of their texts. Of those side by side, only the fourth and the fifth are in order.
def calendar : List Instant :=
  [newYear 100000 0, newYear 20000 0, newYear (-1) 0, newYear (-2) 0, newYear 2024 500000000,
    newYear 2024 0]

def insertDated (s : Store) (t : Instant) : Store :=
  s.insertProduct
    { id := s.products.length, name := "", price := .zero, createdAt := t, updatedAt := some t }

theorem Reachable.insertDated (reachable : s.Reachable) {t : Instant} (valid : t.Valid) :
    (s.insertDated t).Reachable :=
  reachable.insertProduct ⟨valid, fun _ same => Option.mem_some_iff.mp same ▸ valid⟩

theorem Reachable.foldl_insertDated (reachable : s.Reachable) {ts : List Instant}
    (valid : ∀ t ∈ ts, t.Valid) : (ts.foldl Store.insertDated s).Reachable := by
  induction ts generalizing s with
  | nil => exact reachable
  | cons t ts ih =>
    obtain ⟨first, later⟩ := List.forall_mem_cons.mp valid
    exact ih (reachable.insertDated first) later

def calendarShop : Store := calendar.foldl insertDated empty

theorem reachable_calendarShop : calendarShop.Reachable := by
  have time : ∀ t ∈ calendar, t.isValidTime = true := by decide
  have nanosecond : ∀ t ∈ calendar, t.nanosecond < 10 ^ 9 := by decide
  exact Reachable.empty.foldl_insertDated fun t member => ⟨time t member, nanosecond t member⟩

def byCreation : Plan := { order := [⟨"createdAt", .ascending⟩] }

def byChange : Plan := { order := [⟨"updatedAt", .ascending⟩] }

theorem dates_listed_in_order_calendarShop :
    calendarShop.Reachable ∧ byCreation.order = [⟨"createdAt", .ascending⟩] ∧
      byChange.order = [⟨"updatedAt", .ascending⟩] ∧
      ((calendarShop.listed byCreation).Pairwise fun p q =>
        (p.createdAt.notAfter q.createdAt = true ↔ ¬ p.createdAt.Misplaced q.createdAt)) ∧
      (calendarShop.listed byChange).Pairwise fun p q => ∀ t ∈ p.updatedAt, ∀ u ∈ q.updatedAt,
        (t.notAfter u = true ↔ ¬ t.Misplaced u) :=
  ⟨reachable_calendarShop, rfl, rfl,
    (dates_listed_in_order reachable_calendarShop byCreation).2.1 [] rfl,
    (dates_listed_in_order reachable_calendarShop byChange).2.2 [] rfl⟩

theorem listed_calendarShop : calendarShop.listed byCreation = calendarShop.products :=
  listed_of_sorted rfl rfl (by decide +kernel) (by decide +kernel)

theorem listing_not_chronological :
    calendarShop.Reachable ∧ byCreation.order = [⟨"createdAt", .ascending⟩] ∧
      calendarShop.findProducts byCreation =
        (calendarShop.listed byCreation).map (calendarShop.row byCreation) ∧
      (calendarShop.listed byCreation).map (·.createdAt) = calendar ∧
      ¬ (calendarShop.listed byCreation).Pairwise fun p q =>
        p.createdAt.notAfter q.createdAt = true := by
  refine ⟨reachable_calendarShop, rfl, findProducts_eq_map_listed _ _, ?_, ?_⟩
  · rw [listed_calendarShop]
    decide
  · rw [listed_calendarShop]
    decide

end Store
end Catalog
