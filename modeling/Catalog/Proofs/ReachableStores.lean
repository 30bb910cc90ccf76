import Catalog.Proofs.WrittenDates
import Catalog.Seed

set_option autoImplicit false

namespace Catalog

theorem exists_of_bind {α β : Type} {x : Option α} {f : α → Option β} {b : β}
    (found : (x >>= f) = some b) : ∃ a, x = some a ∧ f a = some b :=
  Option.bind_eq_some_iff.mp found

namespace Instant

theorem nanosecond_lt_of_fraction? {cs rest : List Char} {n : Nat}
    (read : fraction? cs = some (n, rest)) : n < 10 ^ 9 := by
  unfold fraction? at read
  split at read
  next behind =>
    obtain ⟨⟨count, after⟩, taken, whole⟩ := Option.map_eq_some_iff.mp read
    obtain ⟨-, taken⟩ := Option.ite_none_left_eq_some.mp taken
    cases taken
    cases whole
    let digits := (behind.take 9).takeWhile Numeral.isDigit
    have room : digits.length ≤ (behind.take 9).length :=
      (List.takeWhile_prefix Numeral.isDigit).length_le
    rw [List.length_take] at room
    have read : behind.length - (behind.drop digits.length).length = digits.length := by
      rw [List.length_drop]
      omega
    have bound : Numeral.ofLeading 9 digits < 10 ^ 9 :=
      Numeral.ofLeading_lt (by omega) fun c member => List.mem_takeWhile_imp member
    rw [Numeral.ofLeading, ← read] at bound
    exact bound
  next =>
    cases read
    decide

theorem valid_fromLocal {t : Instant} {zone : Int} (time : t.isValidTime = true)
    (nanosecond : t.nanosecond < 10 ^ 9) (date : (t.fromLocal zone).date.isValid = true) :
    (t.fromLocal zone).Valid := by
  simp only [isValidTime, Bool.and_eq_true, decide_eq_true_eq] at time
  have hour : (t.fromLocal zone).hour ≤ 23 := by
    simp only [fromLocal]
    omega
  have minute : (t.fromLocal zone).minute ≤ 59 := by
    simp only [fromLocal]
    omega
  have second : (t.fromLocal zone).second ≤ 60 := time.2
  refine ⟨?_, nanosecond⟩
  simp only [isValidTime, date, hour, minute, second, decide_true, Bool.and_true]

theorem valid_of_read? {s : String} {t : Instant} (read : read? s = some t) : t.Valid := by
  obtain ⟨⟨date, cs⟩, -, read⟩ := exists_of_bind read
  dsimp only at read
  split at read
  next =>
    split at read
    next =>
      iterate 6 obtain ⟨_, -, read⟩ := exists_of_bind read
      obtain ⟨nanosecond, fraction, read⟩ := exists_of_bind read
      obtain ⟨zone, -, read⟩ := exists_of_bind read
      obtain ⟨checks, read⟩ := Option.ite_none_right_eq_some.mp read
      cases read
      simp only [Bool.and_eq_true] at checks
      obtain ⟨⟨⟨-, time⟩, -⟩, date⟩ := checks
      exact valid_fromLocal time (nanosecond_lt_of_fraction? fraction) date
    next => cases read
  next => cases read

end Instant

namespace Document

variable {α : Type} {read : Document → Option α}

theorem of_withDefault (holds : α → Prop) {default a : α} {field : Option Document}
    (given : holds default) (reads : ∀ d a, read d = some a → holds a)
    (found : withDefault default read field = some a) : holds a := by
  cases field with
  | none =>
    cases found
    exact given
  | some d => exact reads d a found

theorem of_nullable? (holds : α → Prop) {d : Document} {value : Option α}
    (reads : ∀ d a, read d = some a → holds a) (found : nullable? read d = some value) :
    ∀ a ∈ value, holds a := by
  unfold nullable? at found
  split at found
  next =>
    cases found
    exact nofun
  next =>
    obtain ⟨b, single, rfl⟩ := Option.map_eq_some_iff.mp found
    intro a same
    cases same
    exact reads _ b single

theorem of_listOf? (holds : α → Prop) {d : Document} {values : List α}
    (reads : ∀ d a, read d = some a → holds a) (found : listOf? read d = some values) :
    ∀ a ∈ values, holds a := by
  unfold listOf? at found
  split at found
  next items =>
    induction items generalizing values with
    | nil =>
      cases found
      exact nofun
    | cons item items ih =>
      simp only [List.mapM_cons, Option.bind_eq_bind, Option.bind_eq_some_iff] at found
      obtain ⟨first, single, later, others, found⟩ := found
      cases found
      exact List.forall_mem_cons.mpr ⟨reads item first single, ih others⟩
  next => cases found

end Document

theorem Instant.valid_of_ofDocument? {d : Document} {t : Instant}
    (read : ofDocument? d = some t) : t.Valid := by
  obtain ⟨text, -, read⟩ := exists_of_bind read
  exact valid_of_read? read

namespace Product

structure Dated (p : Product) : Prop where
  created : p.createdAt.Valid
  updated : ∀ t ∈ p.updatedAt, t.Valid

theorem dated_of_ofDocument? {now : Instant} (valid : now.Valid) {d : Document} {p : Product}
    (read : ofDocument? now d = some p) : p.Dated := by
  obtain ⟨fields, -, read⟩ := exists_of_bind read
  split at read
  next =>
    iterate 11 obtain ⟨_, -, read⟩ := exists_of_bind read
    obtain ⟨createdAt, created, read⟩ := exists_of_bind read
    obtain ⟨updatedAt, updated, read⟩ := exists_of_bind read
    obtain ⟨tagIds, -, read⟩ := exists_of_bind read
    cases read
    have instants (d : Document) (t : Instant) (found : Instant.ofDocument? d = some t) :
        t.Valid := Instant.valid_of_ofDocument? found
    refine ⟨Document.of_withDefault Instant.Valid valid instants created, ?_⟩
    exact Document.of_withDefault (fun updatedAt => ∀ t ∈ updatedAt, t.Valid)
      (by simp) (fun _ _ => Document.of_nullable? Instant.Valid instants) updated
  next => cases read

end Product

namespace Store

def Dated (s : Store) : Prop := ∀ p ∈ s.products, p.Dated

theorem dated_of_ofSeed? {now : Instant} (valid : now.Valid) {text : String} {s : Store}
    (read : ofSeed? now text = some s) : s.Dated := by
  obtain ⟨d, -, read⟩ := exists_of_bind read
  obtain ⟨fields, -, read⟩ := exists_of_bind read
  split at read
  next =>
    iterate 2 obtain ⟨_, -, read⟩ := exists_of_bind read
    obtain ⟨products, listed, read⟩ := exists_of_bind read
    obtain ⟨swipers, -, read⟩ := exists_of_bind read
    cases read
    have items (d : Document) (p : Product) (found : Product.ofDocument? now d = some p) :
        p.Dated := Product.dated_of_ofDocument? valid found
    exact Document.of_withDefault (fun products => ∀ p ∈ products, p.Dated)
      (List.forall_mem_nil _) (fun _ _ => Document.of_listOf? Product.Dated items) listed
  next => cases read

theorem Dated.insertProduct {s : Store} {p : Product} (before : s.Dated) (dated : p.Dated) :
    (s.insertProduct p).Dated := by
  intro q member
  rcases List.mem_append.mp member with old | new
  · exact before q old
  · rwa [List.mem_singleton.mp new]

-- The instants that a program can hold are valid ones, the time at which a seed is read included.
inductive Reachable : Store → Prop
  | empty : Reachable Store.empty
  | seed {now : Instant} {text : String} {s : Store} (valid : now.Valid)
      (read : ofSeed? now text = some s) : Reachable s
  | insertCategory {s : Store} (before : Reachable s) (c : Category) :
      Reachable (s.insertCategory c)
  | insertTag {s : Store} (before : Reachable s) (t : Tag) : Reachable (s.insertTag t)
  | insertProduct {s : Store} (before : Reachable s) {p : Product} (dated : p.Dated) :
      Reachable (s.insertProduct p)
  | insertSwiper {s : Store} (before : Reachable s) (w : Swiper) : Reachable (s.insertSwiper w)

theorem Reachable.dated {s : Store} (reachable : s.Reachable) : s.Dated := by
  induction reachable with
  | empty => exact List.forall_mem_nil _
  | seed valid read => exact dated_of_ofSeed? valid read
  | insertCategory before c ih => exact ih
  | insertTag before t ih => exact ih
  | insertProduct before dated ih => exact ih.insertProduct dated
  | insertSwiper before w ih => exact ih

end Store
end Catalog
