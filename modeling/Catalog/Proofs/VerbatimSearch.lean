import Catalog.Proofs.AddedFilters

set_option autoImplicit false

namespace Catalog

namespace Text

-- The characters before and behind the text are those that a sigma in it may look at.
def lowerWithin (before after : List Char) : List Char → List Char
  | [] => []
  | c :: rest =>
    (if c = 'Σ' then [lowerSigma before (rest ++ after)] else lowerChar c)
      ++ lowerWithin (c :: before) after rest

theorem lowerFrom_append (before cs after : List Char) :
    lowerFrom before (cs ++ after) =
      lowerWithin before after cs ++ lowerFrom (cs.reverse ++ before) after := by
  induction cs generalizing before with
  | nil => rfl
  | cons c rest ih =>
    rw [List.cons_append, lowerFrom, ih, lowerWithin, List.append_assoc, List.reverse_cons,
      List.append_assoc, List.singleton_append]

theorem lowerFrom_eq_lowerWithin (before cs : List Char) :
    lowerFrom before cs = lowerWithin before [] cs := by
  have split := lowerFrom_append before cs []
  rwa [List.append_nil, lowerFrom, List.append_nil] at split

def SigmasKeep (before cs after : List Char) : Prop :=
  ∀ i < cs.length, cs[i]? = some 'Σ' →
    lowerSigma ((cs.take i).reverse ++ before.reverse) (cs.drop (i + 1) ++ after) =
      lowerSigma (cs.take i).reverse (cs.drop (i + 1))

instance (before cs after : List Char) : Decidable (SigmasKeep before cs after) :=
  inferInstanceAs (Decidable (∀ i < cs.length, cs[i]? = some 'Σ' → _))

-- On what is still to come, with `seen` for what has been put into small letters, nearest first.
theorem lowerWithin_of_sigmasKeep {before after : List Char} (seen cs : List Char)
    (keep : SigmasKeep before (seen.reverse ++ cs) after) :
    lowerWithin (seen ++ before.reverse) after cs = lowerWithin seen [] cs := by
  induction cs generalizing seen with
  | nil => rfl
  | cons c rest ih =>
    have later : lowerWithin (c :: seen ++ before.reverse) after rest =
        lowerWithin (c :: seen) [] rest := by
      apply ih
      rwa [List.reverse_cons, List.append_assoc, List.singleton_append]
    rw [lowerWithin, lowerWithin, ← later]
    by_cases sigma : c = 'Σ'
    · subst sigma
      have same := keep seen.length (by simp) (by simp)
      have ahead : (seen.reverse ++ 'Σ' :: rest).take seen.length = seen.reverse :=
        List.take_left' List.length_reverse
      rw [ahead, List.reverse_reverse] at same
      have behind : (seen.reverse ++ 'Σ' :: rest).drop (seen.length + 1) = rest := by
        simp [List.drop_append]
      rw [behind] at same
      rw [if_pos rfl, if_pos rfl, same, List.append_nil]
      rfl
    · rw [if_neg sigma, if_neg sigma, List.cons_append]

def Quotes (text needle : String) : Prop :=
  ∃ before after, text.toList = before ++ needle.toList ++ after ∧
    SigmasKeep before needle.toList after

theorem mentions_of_quotes {text needle : String} (quotes : Quotes text needle) :
    Mentions text needle := by
  obtain ⟨before, after, split, keep⟩ := quotes
  have alone : lowerWithin before.reverse after needle.toList = lowerFrom [] needle.toList := by
    rw [lowerFrom_eq_lowerWithin]
    exact lowerWithin_of_sigmasKeep [] needle.toList keep
  rw [Mentions, lower, lower, String.toList_ofList, String.toList_ofList, split, List.append_assoc,
    lowerFrom_append, List.append_nil, lowerFrom_append, alone]
  exact ⟨_, _, List.append_assoc _ _ _⟩

theorem quotes_of_no_sigma {text needle : String} (none : 'Σ' ∉ needle.toList)
    (part : needle.toList <:+: text.toList) : Quotes text needle := by
  obtain ⟨before, after, split⟩ := part
  refine ⟨before, after, split.symm, ?_⟩
  intro i _ sigma
  exact absurd (List.mem_of_getElem? sigma) none

end Text

def Product.Quotes (p : Product) (needle : String) : Prop :=
  Text.Quotes p.name needle ∨ Text.Quotes p.description needle ∨
    ∃ detail ∈ p.detail, Text.Quotes detail needle

theorem Product.quotes_of_no_sigma {p : Product} {needle : String} (none : 'Σ' ∉ needle.toList)
    (part : needle.toList <:+: p.name.toList ∨ needle.toList <:+: p.description.toList ∨
      ∃ detail ∈ p.detail, needle.toList <:+: detail.toList) : p.Quotes needle := by
  rcases part with name | description | ⟨detail, given, inside⟩
  · exact .inl (Text.quotes_of_no_sigma none name)
  · exact .inr (.inl (Text.quotes_of_no_sigma none description))
  · exact .inr (.inr ⟨detail, given, Text.quotes_of_no_sigma none inside⟩)

theorem Product.mentions_of_quotes {p : Product} {needle : String} (quotes : p.Quotes needle) :
    p.Mentions needle := by
  rcases quotes with name | description | ⟨detail, given, inside⟩
  · exact .inl (Text.mentions_of_quotes name)
  · exact .inr (.inl (Text.mentions_of_quotes description))
  · exact .inr (.inr ⟨detail, given, Text.mentions_of_quotes inside⟩)

namespace Store

variable {s : Store} {p : Product} {needle : String} {plan : Plan}

theorem quoted_text_found (stored : p ∈ s.products)
    (only : plan.filterSet = { searchTerm := some needle }) (noOffset : plan.offset = none)
    (noLimit : plan.limit = none) (quotes : p.Quotes needle) :
    ∃ found, s.Lists plan found ∧ p ∈ found := by
  have passes : plan.filterSet.Passes p := by
    rw [only]
    exact {
      price := by simp
      stock := by simp
      category := by simp
      search := by simpa using p.mentions_of_quotes quotes
      featured := by simp }
  have listed := lists_ranked (s := s) noOffset noLimit
  refine ⟨_, listed, ?_⟩
  rw [listed.perm.mem_iff, List.mem_filter]
  exact ⟨stored, decide_eq_true passes⟩

def voyage : Product where
  id := 1
  name := "ΟΔΥΣΣΕΑΣ"
  price := .ofNat 20
  createdAt := ⟨⟨2024, 1, 1⟩, 0, 0, 0, 0⟩

def bookShop : Store where
  products := [voyage]

theorem quoted_text_found_bookShop :
    (voyage ∈ bookShop.products ∧ voyage.Quotes "ΣΣΕΑΣ" ∧ voyage.Quotes "ΟΔΥ") ∧
      (∃ found, bookShop.Lists { searchTerm := some "ΣΣΕΑΣ" } found ∧ voyage ∈ found) ∧
      ∃ found, bookShop.Lists { searchTerm := some "ΟΔΥ" } found ∧ voyage ∈ found := by
  have stored : voyage ∈ bookShop.products := List.mem_singleton_self _
  have sigmas : voyage.Quotes "ΣΣΕΑΣ" :=
    .inl ⟨"ΟΔΥ".toList, [], by decide +kernel, by decide +kernel⟩
  have plain : voyage.Quotes "ΟΔΥ" :=
    voyage.quotes_of_no_sigma (by decide +kernel) (.inl (by decide +kernel))
  exact ⟨⟨stored, sigmas, plain⟩, quoted_text_found stored rfl rfl rfl sigmas,
    quoted_text_found stored rfl rfl rfl plain⟩

-- Four letters of the name are read as a word of their own, which ends with the final sigma.
theorem quoted_text_missed :
    voyage ∈ bookShop.products ∧ Text.trim "ΟΔΥΣ" = "ΟΔΥΣ" ∧ "ΟΔΥΣ" ≠ "" ∧
      "ΟΔΥΣ".toList <:+: voyage.name.toList ∧
      bookShop.findProducts { searchTerm := some "ΟΔΥΣ" } = [] := by
  refine ⟨List.mem_singleton_self _, by decide +kernel, by decide, by decide +kernel, ?_⟩
  have unmatched : bookShop.matching { searchTerm := some "ΟΔΥΣ" } = [] := by decide +kernel
  rw [findProducts, unmatched]
  simp [Plan.arrange, Plan.page, Plan.sort]

end Store
end Catalog
