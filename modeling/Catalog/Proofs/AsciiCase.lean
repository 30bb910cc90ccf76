import Catalog.Text.LowerCase

set_option autoImplicit false

namespace Catalog.Text

theorem asciiLower_eq_toLower (c : Char) : asciiLower c = c.toLower := by
  unfold asciiLower Char.toLower isAsciiCapital
  by_cases capital : 'A' ≤ c ∧ c ≤ 'Z'
  · have bounds : 65 ≤ c.toNat ∧ c.toNat ≤ 90 := capital
    have both : c.val ≥ 'A'.val ∧ c.val ≤ 'Z'.val := capital
    have valid : (c.toNat + 32).isValidChar := .inl (by omega)
    rw [if_pos (by simpa using capital), dif_pos both]
    apply Char.toNat_inj.mp
    rw [Char.ofNat, dif_pos valid]
    change c.toNat + 32 = (c.val + 32).toNat
    rw [UInt32.toNat_add]
    change c.toNat + 32 = (c.toNat + 32) % 2 ^ 32
    omega
  · have neither : ¬ (c.val ≥ 'A'.val ∧ c.val ≤ 'Z'.val) := capital
    rw [if_neg (by simpa using capital), dif_neg neither]

theorem map_asciiLower (s : String) : s.toList.map asciiLower = s.toLower.toList := by
  rw [funext asciiLower_eq_toLower]
  exact String.toList_map.symm

theorem toLower_eq_iff {s t : String} :
    s.toLower = t.toLower ↔ s.toList.map Char.toLower = t.toList.map Char.toLower := by
  rw [← String.toList_inj, ← map_asciiLower, ← map_asciiLower, funext asciiLower_eq_toLower]

def capitals : List Char := "ABCDEFGHIJKLMNOPQRSTUVWXYZ".toList

theorem toLower_eq_self_or_mem_capitals (c : Char) : c.toLower = c ∨ c ∈ capitals := by
  have all : ∀ n ≤ 90, 65 ≤ n → Char.ofNat n ∈ capitals := by decide
  rw [← asciiLower_eq_toLower, asciiLower]
  by_cases capital : isAsciiCapital c = true
  · right
    have bounds : 'A' ≤ c ∧ c ≤ 'Z' := by simpa [isAsciiCapital] using capital
    have inside := all c.toNat bounds.2 bounds.1
    rwa [Char.ofNat_toNat] at inside
  · left
    exact if_neg capital

section Letters

variable {α : Type} (f : Char → α)

-- What does not tell a capital from its small letter does not see the case of any character.
theorem toLower_congr (unseen : capitals.map (fun c => f c.toLower) = capitals.map f) (c : Char) :
    f c.toLower = f c := by
  rcases toLower_eq_self_or_mem_capitals c with same | capital
  · rw [same]
  · exact List.map_inj_left.mp unseen c capital

theorem isCased_toLower (c : Char) : isCased c.toLower = isCased c :=
  toLower_congr isCased (by decide) c

theorem isCaseIgnorable_toLower (c : Char) : isCaseIgnorable c.toLower = isCaseIgnorable c :=
  toLower_congr isCaseIgnorable (by decide) c

theorem lowerChar_toLower (c : Char) : lowerChar c.toLower = lowerChar c :=
  toLower_congr lowerChar (by decide) c

theorem toLower_eq_sigma_iff (c : Char) : c.toLower = 'Σ' ↔ c = 'Σ' := by
  have unseen := toLower_congr (fun c => decide (c = 'Σ')) (by decide) c
  simpa using unseen

end Letters

theorem meetsCased_map_toLower (cs : List Char) :
    meetsCased (cs.map Char.toLower) = meetsCased cs := by
  have skipped : isCaseIgnorable ∘ Char.toLower = isCaseIgnorable := funext isCaseIgnorable_toLower
  have cased : isCased ∘ Char.toLower = isCased := funext isCased_toLower
  simp only [meetsCased, List.dropWhile_map, skipped, List.head?_map, Option.map_map, cased]

theorem lowerSigma_map_toLower (before after : List Char) :
    lowerSigma (before.map Char.toLower) (after.map Char.toLower) = lowerSigma before after := by
  simp only [lowerSigma, meetsCased_map_toLower]

-- The characters before it keep up with the text, since a sigma looks back at them.
theorem lowerFrom_map_toLower (before cs : List Char) :
    lowerFrom (before.map Char.toLower) (cs.map Char.toLower) = lowerFrom before cs := by
  induction cs generalizing before with
  | nil => rfl
  | cons c rest ih =>
    have later := ih (c :: before)
    rw [List.map_cons] at later
    simp only [List.map_cons, lowerFrom, later, toLower_eq_sigma_iff, lowerSigma_map_toLower,
      lowerChar_toLower]

theorem lower_toLower (s : String) : lower s.toLower = lower s := by
  have letters : s.toLower.toList = s.toList.map Char.toLower := String.toList_map
  rw [lower, lower, letters]
  exact congrArg String.ofList (lowerFrom_map_toLower [] s.toList)

example : lower "LOGOΣ logoΣ" = "logoς logoς" := by decide +kernel

end Catalog.Text
