import Mathlib.Data.List.Forall2

set_option autoImplicit false

namespace Catalog.Steps

variable {ε ε' α β : Type}

theorem bind_eq_ok {x : Except ε α} {f : α → Except ε β} {b : β} :
    (x >>= f) = .ok b ↔ ∃ a, x = .ok a ∧ f a = .ok b := by
  cases x <;> simp [bind, Except.bind]

theorem map_eq_ok {x : Except ε α} {f : α → β} {b : β} :
    x.map f = .ok b ↔ ∃ a, x = .ok a ∧ f a = b := by
  cases x <;> simp [Except.map]

theorem mapError_eq_ok {x : Except ε α} {f : ε → ε'} {a : α} :
    x.mapError f = .ok a ↔ x = .ok a := by
  cases x <;> simp [Except.mapError]

theorem bind_eq_error {x : Except ε α} {f : α → Except ε β} {e : ε} :
    (x >>= f) = .error e ↔ x = .error e ∨ ∃ a, x = .ok a ∧ f a = .error e := by
  cases x <;> simp [bind, Except.bind]

theorem map_eq_error {x : Except ε α} {f : α → β} {e : ε} :
    x.map f = .error e ↔ x = .error e := by
  cases x <;> simp [Except.map]

theorem mapError_eq_error {x : Except ε α} {f : ε → ε'} {e : ε'} :
    x.mapError f = .error e ↔ ∃ cause, x = .error cause ∧ f cause = e := by
  cases x <;> simp [Except.mapError]

theorem ok_unique {x y : Except ε α} {a b : α} (same : x = y) (first : x = .ok a)
    (second : y = .ok b) : a = b :=
  Except.ok.inj (first.symm.trans (same.trans second))

theorem exists_of_any {x : Except ε α} {p : α → Bool} (holds : x.toOption.any p = true) :
    ∃ a, x = .ok a ∧ p a = true := by
  cases x with
  | error e => cases holds
  | ok a => exact ⟨a, rfl, holds⟩

def failure? : Except ε α → Option ε
  | .error e => some e
  | .ok _ => none

@[simp] theorem failure?_eq_some_iff {x : Except ε α} {e : ε} :
    failure? x = some e ↔ x = .error e := by
  cases x <;> simp [failure?]

@[simp] theorem failure?_eq_none_iff {x : Except ε α} : failure? x = none ↔ ∃ a, x = .ok a := by
  cases x <;> simp [failure?]

theorem failure?_bind {x : Except ε α} {f : α → Except ε β} {later : Option ε}
    (alike : ∀ a, failure? (f a) = later) : failure? (x >>= f) = (failure? x).or later := by
  cases x with
  | error e => rfl
  | ok a => exact alike a

@[simp] theorem failure?_map {x : Except ε α} {f : α → β} : failure? (x.map f) = failure? x := by
  cases x <;> rfl

theorem mapM_eq_ok_iff {f : α → Except ε β} {xs : List α} {ys : List β} :
    xs.mapM f = .ok ys ↔ List.Forall₂ (fun x y => f x = .ok y) xs ys := by
  induction xs generalizing ys with
  | nil =>
    rw [List.mapM_nil, List.forall₂_nil_left_iff]
    exact ⟨fun all => (Except.ok.inj all).symm, fun none => congrArg Except.ok none.symm⟩
  | cons x rest ih =>
    rw [List.mapM_cons, bind_eq_ok, List.forall₂_cons_left_iff]
    refine exists_congr fun y => ?_
    constructor
    · rintro ⟨first, all⟩
      obtain ⟨others, later, all⟩ := bind_eq_ok.mp all
      cases all
      exact ⟨others, first, ih.mp later, rfl⟩
    · rintro ⟨others, first, later, rfl⟩
      exact ⟨first, bind_eq_ok.mpr ⟨others, ih.mpr later, rfl⟩⟩

theorem exists_of_mem_mapM {f : α → Except ε β} {xs : List α} {ys : List β}
    (all : xs.mapM f = .ok ys) {y : β} (member : y ∈ ys) : ∃ x ∈ xs, f x = .ok y := by
  have steps := mapM_eq_ok_iff.mp all
  clear all
  induction steps with
  | nil => cases member
  | cons first later ih =>
    rcases List.mem_cons.mp member with rfl | inside
    · exact ⟨_, List.mem_cons_self, first⟩
    · obtain ⟨x, present, step⟩ := ih inside
      exact ⟨x, List.mem_cons_of_mem _ present, step⟩

theorem mapM_eq_error_iff {f : α → Except ε β} {xs : List α} {e : ε} :
    xs.mapM f = .error e ↔ ∃ before x after, xs = before ++ x :: after ∧
      (∀ earlier ∈ before, ∃ y, f earlier = .ok y) ∧ f x = .error e := by
  induction xs with
  | nil =>
    constructor
    · intro failed
      cases failed
    · rintro ⟨before, x, after, split, -, -⟩
      simp at split
  | cons x rest ih =>
    rw [List.mapM_cons, bind_eq_error]
    constructor
    · rintro (first | ⟨y, first, failed⟩)
      · exact ⟨[], x, rest, rfl, List.forall_mem_nil _, first⟩
      · rcases bind_eq_error.mp failed with later | ⟨others, -, never⟩
        · obtain ⟨before, z, after, rfl, earlier, step⟩ := ih.mp later
          exact ⟨x :: before, z, after, rfl, List.forall_mem_cons.mpr ⟨⟨y, first⟩, earlier⟩, step⟩
        · cases never
    · rintro ⟨before, z, after, split, earlier, step⟩
      cases before with
      | nil =>
        obtain ⟨rfl, rfl⟩ := List.cons.inj split
        exact .inl step
      | cons first before =>
        obtain ⟨rfl, rfl⟩ := List.cons.inj split
        obtain ⟨⟨y, ok⟩, earlier⟩ := List.forall_mem_cons.mp earlier
        exact .inr ⟨y, ok, bind_eq_error.mpr (.inl (ih.mpr ⟨before, z, after, rfl, earlier, step⟩))⟩

theorem exists_of_forall₂ {related : α → β → Prop} {xs : List α} {ys : List β}
    (all : List.Forall₂ related xs ys) : ∀ x ∈ xs, ∃ y, related x y := by
  induction all with
  | nil => exact List.forall_mem_nil _
  | cons first later ih => exact List.forall_mem_cons.mpr ⟨⟨_, first⟩, ih⟩

theorem exists_mapM_iff {f : α → Except ε β} {xs : List α} :
    (∃ ys, xs.mapM f = .ok ys) ↔ ∀ x ∈ xs, ∃ y, f x = .ok y := by
  constructor
  · rintro ⟨ys, all⟩
    exact exists_of_forall₂ (mapM_eq_ok_iff.mp all)
  · intro succeeds
    cases run : xs.mapM f with
    | ok ys => exact ⟨ys, rfl⟩
    | error e =>
      obtain ⟨before, x, after, rfl, -, failed⟩ := mapM_eq_error_iff.mp run
      obtain ⟨y, step⟩ := succeeds x (List.mem_append_right _ List.mem_cons_self)
      rw [failed] at step
      cases step

theorem exists_of_mapM_error {f : α → Except ε β} {xs : List α} {e : ε}
    (failed : xs.mapM f = .error e) : ∃ x ∈ xs, f x = .error e := by
  obtain ⟨before, x, after, rfl, -, step⟩ := mapM_eq_error_iff.mp failed
  exact ⟨x, List.mem_append_right _ List.mem_cons_self, step⟩

end Catalog.Steps
