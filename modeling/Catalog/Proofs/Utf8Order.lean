import Catalog.Text.Utf8
import Mathlib.Data.String.Basic
import Mathlib.Order.Monotone.Basic
import Mathlib.Tactic.SplitIfs

set_option autoImplicit false

namespace Catalog.Utf8

def bytes (s : String) : List Nat := (encode s).map UInt8.toNat

def codeBytes (v : Nat) : List Nat :=
  if v ≤ 0x7F then [v]
  else if v ≤ 0x7FF then [v / 64 % 32 + 192, v % 64 + 128]
  else if v ≤ 0xFFFF then [v / 4096 % 16 + 224, v / 64 % 64 + 128, v % 64 + 128]
  else [v / 262144 % 8 + 240, v / 4096 % 64 + 128, v / 64 % 64 + 128, v % 64 + 128]

theorem map_toNat_utf8EncodeChar (c : Char) :
    (String.utf8EncodeChar c).map UInt8.toNat = codeBytes c.toNat := by
  have small : ∀ n < 256, (UInt8.ofNat n).toNat = n := fun n h => UInt8.toNat_ofNat_of_lt' h
  change (String.utf8EncodeChar c).map UInt8.toNat = codeBytes c.val.toNat
  simp only [String.utf8EncodeChar, codeBytes]
  split_ifs <;> simp (disch := omega) only [List.map_cons, List.map_nil, small]

theorem bytes_eq_flatMap (s : String) : bytes s = s.toList.flatMap fun c => codeBytes c.toNat := by
  simp only [bytes, encode, List.map_flatMap, map_toNat_utf8EncodeChar]

theorem nil_lt_codeBytes_append (v : Nat) (rest : List Nat) : [] < codeBytes v ++ rest := by
  unfold codeBytes
  split_ifs <;> exact List.nil_lt_cons _ _

-- Longer codes begin with larger bytes. Of two codes of one length, the first byte in which they
-- differ decides; the bound leaves room for the three bits that the first of four bytes holds.
theorem codeBytes_append_lt {v w : Nat} (less : v < w) (bound : w < 0x110000)
    (rest rest' : List Nat) : codeBytes v ++ rest < codeBytes w ++ rest' := by
  have lead (u : Nat) (within : u < 0x110000) : u / 262144 % 8 = u / 262144 :=
    Nat.mod_eq_of_lt (by omega)
  unfold codeBytes
  rw [lead v (by omega), lead w bound]
  split_ifs <;> simp only [List.cons_append, List.nil_append, List.cons_lt_cons_iff]
  all_goals omega

theorem toNat_char_lt (c : Char) : c.toNat < 0x110000 := by
  have valid := c.valid
  simp only [UInt32.isValidChar, Nat.isValidChar] at valid
  change c.val.toNat < 0x110000
  omega

theorem flatMap_codeBytes_lt {cs ds : List Char} (less : cs < ds) :
    (cs.flatMap fun c => codeBytes c.toNat) < ds.flatMap fun d => codeBytes d.toNat := by
  induction less with
  | @nil d ds =>
    rw [List.flatMap_nil, List.flatMap_cons]
    exact nil_lt_codeBytes_append d.toNat _
  | @cons c cs ds later ih =>
    rw [List.flatMap_cons, List.flatMap_cons]
    exact List.append_left_lt ih
  | @rel c cs d ds first =>
    rw [List.flatMap_cons, List.flatMap_cons]
    exact codeBytes_append_lt first (toNat_char_lt d) _ _

theorem strictMono_bytes : StrictMono bytes := by
  intro x y less
  rw [bytes_eq_flatMap, bytes_eq_flatMap]
  exact flatMap_codeBytes_lt (String.lt_iff_toList_lt.mp less)

theorem encode_injective : Function.Injective encode := by
  intro x y same
  exact strictMono_bytes.injective (congrArg (List.map UInt8.toNat) same)

end Catalog.Utf8
