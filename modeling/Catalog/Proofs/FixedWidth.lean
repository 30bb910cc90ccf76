import Catalog.Proofs.Identifiers
import Catalog.Time.Instant
import Mathlib.Data.String.Basic
import Mathlib.Tactic.Ring

set_option autoImplicit false

namespace Catalog

-- In the linear order of lists, for which the library has the strict form.
theorem cons_le_cons_iff {α : Type} [LinearOrder α] {x y : α} {xs ys : List α} :
    x :: xs ≤ y :: ys ↔ x < y ∨ x = y ∧ xs ≤ ys := by
  rw [le_iff_lt_or_eq, le_iff_lt_or_eq, List.cons_lt_cons_iff, List.cons.injEq]
  tauto

theorem append_le_append_left_iff {α : Type} [LinearOrder α] (common xs ys : List α) :
    common ++ xs ≤ common ++ ys ↔ xs ≤ ys := by
  induction common with
  | nil => rfl
  | cons x rest ih => simp [cons_le_cons_iff, ih]

namespace Numeral

variable {cs ds : List Char}

theorem digitValue_lt_ten {c : Char} (digit : isDigit c = true) : digitValue c < 10 := by
  have bounds := isDigit_iff.mp digit
  change c.toNat - 0x30 < 10
  omega

theorem digitValue_lt_iff {c d : Char} (digit : isDigit c = true) (digit' : isDigit d = true) :
    digitValue c < digitValue d ↔ c < d := by
  have bounds := isDigit_iff.mp digit
  have bounds' := isDigit_iff.mp digit'
  change c.toNat - 0x30 < d.toNat - 0x30 ↔ c.toNat < d.toNat
  omega

theorem digitValue_inj {c d : Char} (digit : isDigit c = true) (digit' : isDigit d = true) :
    digitValue c = digitValue d ↔ c = d := by
  have bounds := isDigit_iff.mp digit
  have bounds' := isDigit_iff.mp digit'
  rw [← Char.toNat_inj]
  change c.toNat - 0x30 = d.toNat - 0x30 ↔ c.toNat = d.toNat
  omega

theorem foldl_digitValue (n : Nat) (cs : List Char) :
    cs.foldl (fun n c => 10 * n + digitValue c) n = n * 10 ^ cs.length + ofDigits cs := by
  induction cs generalizing n with
  | nil => simp [ofDigits]
  | cons c cs ih =>
    rw [ofDigits, List.foldl_cons, List.foldl_cons, ih, ih, List.length_cons, pow_succ]
    ring

theorem ofDigits_append (cs ds : List Char) :
    ofDigits (cs ++ ds) = ofDigits cs * 10 ^ ds.length + ofDigits ds := by
  rw [ofDigits, List.foldl_append, foldl_digitValue]
  rfl

theorem ofDigits_cons (c : Char) (cs : List Char) :
    ofDigits (c :: cs) = digitValue c * 10 ^ cs.length + ofDigits cs := by
  rw [ofDigits, List.foldl_cons, foldl_digitValue, Nat.mul_zero, Nat.zero_add]

theorem ofDigits_replicate_zero (count : Nat) : ofDigits (List.replicate count '0') = 0 := by
  induction count with
  | zero => rfl
  | succ count ih =>
    rw [List.replicate_succ, ofDigits_cons, ih, show digitValue '0' = 0 by rfl, Nat.zero_mul]

theorem ofDigits_lt (digits : ∀ c ∈ cs, isDigit c = true) : ofDigits cs < 10 ^ cs.length := by
  induction cs with
  | nil => exact Nat.one_pos
  | cons c cs ih =>
    have first := digitValue_lt_ten (digits c List.mem_cons_self)
    have later := ih fun d member => digits d (List.mem_cons_of_mem _ member)
    rw [ofDigits_cons, List.length_cons, pow_succ]
    calc digitValue c * 10 ^ cs.length + ofDigits cs
        < digitValue c * 10 ^ cs.length + 10 ^ cs.length := Nat.add_lt_add_left later _
      _ = (digitValue c + 1) * 10 ^ cs.length := (Nat.succ_mul _ _).symm
      _ ≤ 10 * 10 ^ cs.length := Nat.mul_le_mul_right _ first
      _ = 10 ^ cs.length * 10 := Nat.mul_comm _ _

-- With remainders below the unit, the multiples of the unit are compared first.
theorem unit_lex {unit a b low low' : Nat} (small : low < unit) (small' : low' < unit)
    (rest : Prop) :
    (a * unit + low < b * unit + low' ∨ a * unit + low = b * unit + low' ∧ rest) ↔
      a < b ∨ a = b ∧ (low < low' ∨ low = low' ∧ rest) := by
  rcases lt_trichotomy a b with less | rfl | more
  · have room : (a + 1) * unit ≤ b * unit := Nat.mul_le_mul_right _ less
    rw [Nat.succ_mul] at room
    exact iff_of_true (.inl (by omega)) (.inl less)
  · simp
  · have room : (b + 1) * unit ≤ a * unit := Nat.mul_le_mul_right _ more
    rw [Nat.succ_mul] at room
    refine iff_of_false ?_ ?_ <;> omega

theorem append_le_append_iff (same : cs.length = ds.length)
    (digits : ∀ c ∈ cs, isDigit c = true) (digits' : ∀ d ∈ ds, isDigit d = true)
    (rest rest' : List Char) :
    cs ++ rest ≤ ds ++ rest' ↔
      ofDigits cs < ofDigits ds ∨ ofDigits cs = ofDigits ds ∧ rest ≤ rest' := by
  induction cs generalizing ds with
  | nil =>
    obtain rfl : ds = [] := List.length_eq_zero_iff.mp same.symm
    simp
  | cons c cs ih =>
    cases ds with
    | nil => cases same
    | cons d ds =>
      have first := digits c List.mem_cons_self
      have first' := digits' d List.mem_cons_self
      have later := fun e member => digits e (List.mem_cons_of_mem c member)
      have later' := fun e member => digits' e (List.mem_cons_of_mem d member)
      have lengths : cs.length = ds.length := Nat.succ.inj same
      rw [List.cons_append, List.cons_append, cons_le_cons_iff, ih lengths later later',
        ofDigits_cons, ofDigits_cons, ← lengths,
        unit_lex (ofDigits_lt later) (lengths ▸ ofDigits_lt later'), digitValue_lt_iff first first',
        digitValue_inj first first']

def ofLeading (width : Nat) (cs : List Char) : Nat :=
  ofDigits cs * 10 ^ (width - cs.length)

theorem ofLeading_cons {width : Nat} (room : cs.length ≤ width) (c : Char) :
    ofLeading (width + 1) (c :: cs) = digitValue c * 10 ^ width + ofLeading width cs := by
  have zeros : width + 1 - (c :: cs).length = width - cs.length := Nat.add_sub_add_right _ _ _
  rw [ofLeading, ofLeading, ofDigits_cons, zeros, Nat.add_mul, Nat.mul_assoc, ← pow_add,
    Nat.add_sub_cancel' room]

theorem ofLeading_lt {width : Nat} (room : cs.length ≤ width)
    (digits : ∀ c ∈ cs, isDigit c = true) : ofLeading width cs < 10 ^ width := by
  calc ofDigits cs * 10 ^ (width - cs.length)
      < 10 ^ cs.length * 10 ^ (width - cs.length) :=
        Nat.mul_lt_mul_of_pos_right (ofDigits_lt digits) (Nat.pow_pos (by decide))
    _ = 10 ^ width := by rw [← pow_add, Nat.add_sub_cancel' room]

theorem ofLeading_le_append {width : Nat} (room : (cs ++ ds).length ≤ width) :
    ofLeading width cs ≤ ofLeading width (cs ++ ds) := by
  rw [List.length_append] at room
  have zeros : width - cs.length = ds.length + (width - (cs.length + ds.length)) := by omega
  rw [ofLeading, ofLeading, ofDigits_append, List.length_append, zeros, pow_add, ← Nat.mul_assoc,
    Nat.add_mul]
  exact Nat.le_add_right _ _

end Numeral

namespace Instant

open Numeral

variable {width m n : Nat}

theorem isDigit_of_mem_padded {c : Char} (member : c ∈ padded width n) : isDigit c = true := by
  rcases List.mem_append.mp member with zero | digit
  · rw [List.eq_of_mem_replicate zero]
    rfl
  · exact isDigit_of_mem_digits digit

theorem ofDigits_padded (width n : Nat) : ofDigits (padded width n) = n := by
  simp only [padded, ofDigits_append, ofDigits_replicate_zero, ofDigits_digits, Nat.zero_mul,
    Nat.zero_add]

theorem length_padded_le_iff {size : Nat} (room : width ≤ size) (positive : 0 < size) :
    (padded width n).length ≤ size ↔ n < 10 ^ size := by
  have plain : (digits n).length ≤ size ↔ n < 10 ^ size :=
    Nat.length_toDigits_le_iff (by decide) positive
  rw [← plain, padded, List.length_append, List.length_replicate]
  omega

theorem length_padded (positive : 0 < width) (small : n < 10 ^ width) :
    (padded width n).length = width := by
  have atMost := (length_padded_le_iff le_rfl positive).mpr small
  have atLeast : width ≤ (padded width n).length := by
    rw [padded, List.length_append, List.length_replicate]
    omega
  omega

theorem lt_of_length_padded_lt (positive : 0 < width)
    (shorter : (padded width m).length < (padded width n).length) : m < n := by
  have atLeast : width ≤ (padded width m).length := by
    rw [padded, List.length_append, List.length_replicate]
    omega
  have within : m < 10 ^ (padded width m).length :=
    (length_padded_le_iff atLeast (by omega)).mp le_rfl
  by_contra atMost
  have fits : (padded width n).length ≤ (padded width m).length :=
    (length_padded_le_iff atLeast (by omega)).mpr (by omega)
  omega

theorem padded_append_le_iff (same : (padded width m).length = (padded width n).length)
    (rest rest' : List Char) :
    padded width m ++ rest ≤ padded width n ++ rest' ↔ m < n ∨ m = n ∧ rest ≤ rest' := by
  rw [append_le_append_iff same (fun _ => isDigit_of_mem_padded) (fun _ => isDigit_of_mem_padded),
    ofDigits_padded, ofDigits_padded]

end Instant
end Catalog
