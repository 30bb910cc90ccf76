import Catalog.Http.Target
import Catalog.Proofs.CommaList
import Catalog.Query

set_option autoImplicit false

namespace Catalog

namespace Utf8

end Utf8

namespace Numeral

theorem isDigit_iff {c : Char} : isDigit c = true ↔ 0x30 ≤ c.toNat ∧ c.toNat ≤ 0x39 := by
  simp only [isDigit, Bool.and_eq_true, decide_eq_true_eq]
  rfl

theorem isDigit_of_mem_digits {n : Nat} {c : Char} (member : c ∈ digits n) : isDigit c = true := by
  have digit : c.isDigit = true := Nat.isDigit_of_mem_toDigits (by decide) (by decide) member
  simp only [Char.isDigit, Bool.and_eq_true, decide_eq_true_eq] at digit
  exact isDigit_iff.mpr digit

theorem ofDigits_digits (n : Nat) : ofDigits (digits n) = n := by
  have read := Nat.ofDigitChars_ten_toDigits (n := n)
  rw [Nat.ofDigitChars_eq_foldl] at read
  exact read

theorem toList_intText (id : Int) :
    (intText id).toList = (if id < 0 then ['-'] else []) ++ digits id.natAbs := by
  unfold intText text
  split <;> simp [String.toList_append]

end Numeral

namespace Route

end Route

end Catalog
