import Catalog.Proofs.AsciiCase
import Catalog.Proofs.CorrectRounding
import Catalog.Proofs.WrittenTerms

set_option autoImplicit false

namespace Catalog

namespace Numeral

variable {cs whole fraction : List Char}

theorem isPlainFrom_digits {digit point : Bool} {digits : List Char}
    (all : ∀ c ∈ digits, isDigit c = true) (rest : List Char) :
    isPlainFrom digit point (digits ++ rest) =
      isPlainFrom (digit || !digits.isEmpty) point rest := by
  induction digits generalizing digit with
  | nil => simp
  | cons c later ih =>
    obtain ⟨first, others⟩ := List.forall_mem_cons.mp all
    rw [List.cons_append, isPlainFrom, if_pos first, ih others]
    simp

theorem isPlainFrom_pointed {digit : Bool} : isPlainFrom digit true cs = true ↔
    (∀ c ∈ cs, isDigit c = true) ∧ (digit = true ∨ cs ≠ []) := by
  induction cs generalizing digit with
  | nil => simp [isPlainFrom]
  | cons c rest ih =>
    unfold isPlainFrom
    by_cases first : isDigit c = true
    · simp [first, ih]
    · simp [first]

theorem Spells.isPlain (spells : Spells whole fraction cs) : isPlain cs = true := by
  obtain ⟨digits, nonempty, text⟩ := spells
  have before : ∀ c ∈ whole, isDigit c = true :=
    fun c member => digits c (List.mem_append_left _ member)
  have after : ∀ c ∈ fraction, isDigit c = true :=
    fun c member => digits c (List.mem_append_right _ member)
  rcases text with ⟨rfl, rfl⟩ | rfl
  · have run : isPlainFrom false false (cs ++ []) = _ := isPlainFrom_digits before []
    rw [List.append_nil] at run nonempty
    rw [Numeral.isPlain, run]
    simpa [isPlainFrom] using nonempty
  · have point : isDigit '.' = false := by decide
    rw [Numeral.isPlain, isPlainFrom_digits before, isPlainFrom, point]
    refine isPlainFrom_pointed.mpr ⟨after, ?_⟩
    simpa [or_iff_not_imp_left] using nonempty

theorem exists_spells_of_isPlain (plain : isPlain cs = true) :
    ∃ whole fraction, Spells whole fraction cs := by
  have before : ∀ c ∈ cs.takeWhile isDigit, isDigit c = true := fun c => List.mem_takeWhile_imp
  have parts : cs.takeWhile isDigit ++ cs.dropWhile isDigit = cs := List.takeWhile_append_dropWhile
  have other := List.head?_dropWhile_not isDigit cs
  rw [isPlain, ← parts, isPlainFrom_digits before, Bool.false_or] at plain
  generalize cs.takeWhile isDigit = whole at before parts plain
  cases behind : cs.dropWhile isDigit with
  | nil =>
    rw [behind] at parts plain
    have nonempty : whole ≠ [] := by simpa [isPlainFrom] using plain
    rw [List.append_nil] at parts
    exact ⟨whole, [], by simpa using before, by simpa using nonempty, .inl ⟨parts.symm, rfl⟩⟩
  | cons c rest =>
    rw [behind] at parts plain other
    have first : isDigit c = false := by simpa using other
    by_cases point : c = '.'
    · subst point
      rw [isPlainFrom, first] at plain
      obtain ⟨after, given⟩ := isPlainFrom_pointed.mp plain
      refine ⟨whole, rest, ?_, ?_, .inr parts.symm⟩
      · intro c member
        exact (List.mem_append.mp member).elim (before c) (after c)
      · simpa [or_iff_not_imp_left] using given
    · simp [isPlainFrom, first, point] at plain

theorem Spells.char (spells : Spells whole fraction cs) {c : Char} (member : c ∈ cs) :
    isDigit c = true ∨ c = '.' := by
  obtain ⟨digits, -, ⟨rfl, rfl⟩ | rfl⟩ := spells
  · exact .inl (digits c (by simpa using member))
  · rcases List.mem_append.mp member with before | behind
    · exact .inl (digits c (List.mem_append_left _ before))
    · rcases List.mem_cons.mp behind with point | after
      · exact .inr point
      · exact .inl (digits c (List.mem_append_right _ after))

theorem Spells.not_mem (spells : Spells whole fraction cs) {c : Char} (letter : isDigit c = false)
    (other : c ≠ '.') : c ∉ cs := by
  intro member
  rcases spells.char member with digit | point
  · rw [letter] at digit
    cases digit
  · exact other point

theorem Spells.splitSign (spells : Spells whole fraction cs) : splitSign cs = (false, cs) :=
  splitSign_of_unsigned (spells.not_mem (by decide) (by decide))
    (spells.not_mem (by decide) (by decide))

-- All three words have this letter.
theorem Spells.no_word (spells : Spells whole fraction cs) : 'n' ∉ cs.map Char.toLower := by
  intro letter
  obtain ⟨c, member, small⟩ := List.mem_map.mp letter
  have capitals : Text.capitals.all (fun c => !isDigit c && c ≠ '.') = true := by decide
  rcases Text.toLower_eq_self_or_mem_capitals c with same | capital
  · rw [← same, small] at member
    exact spells.not_mem (by decide) (by decide) member
  · obtain ⟨noDigit, noPoint⟩ := Bool.and_eq_true_iff.mp (List.all_eq_true.mp capitals c capital)
    exact spells.not_mem (by simpa using noDigit) (by simpa using noPoint) member

theorem Spells.unmarked (spells : Spells whole fraction cs) :
    ∀ c ∈ cs, (!isExponentMark c) = true := by
  intro c member
  simp only [isExponentMark, Bool.not_eq_true', Bool.or_eq_false_iff, decide_eq_false_iff_not]
  constructor
  · rintro rfl
    exact spells.not_mem (by decide) (by decide) member
  · rintro rfl
    exact spells.not_mem (by decide) (by decide) member

theorem Spells.general? (spells : Spells whole fraction cs) :
    general? cs = some (.ofRatio false (ofDigits (whole ++ fraction)) (10 ^ fraction.length)) := by
  have wordless (word : String) (letter : 'n' ∈ word.toList) :
      String.ofList (cs.map Char.toLower) ≠ word := by
    rintro rfl
    exact spells.no_word (by simpa using letter)
  have all : cs.takeWhile (!isExponentMark ·) = cs := List.takeWhile_eq_self_iff.mpr spells.unmarked
  have rest : cs.dropWhile (!isExponentMark ·) = [] := List.dropWhile_eq_nil_iff.mpr spells.unmarked
  have inf := wordless "inf" (by decide)
  have infinity := wordless "infinity" (by decide)
  have nan := wordless "nan" (by decide)
  simp [Numeral.general?, spells.splitSign, inf, infinity, nan, all, rest, spells.splitPlain?,
    exponent?]

theorem exists_general?_of_isPlain (plain : isPlain cs = true) : ∃ x, general? cs = some x := by
  obtain ⟨whole, fraction, spells⟩ := exists_spells_of_isPlain plain
  exact ⟨_, spells.general?⟩

theorem ofPlain?_eq (cs : List Char) :
    ofPlain? cs = if isPlain cs = true then general? cs else none := by
  by_cases plain : isPlain cs = true
  · obtain ⟨whole, fraction, spells⟩ := exists_spells_of_isPlain plain
    rw [if_pos plain, spells.general?, ofPlain?, spells.splitPlain?]
    rfl
  · have unsplit : splitPlain? cs = none := by
      rw [Option.eq_none_iff_forall_not_mem]
      rintro ⟨whole, fraction⟩ split
      exact plain (spells_of_splitPlain? split).isPlain
    rw [if_neg plain, ofPlain?, unsplit]
    rfl

example : (general? "-.5e2".toList).isSome = true ∧ isPlain "-.5e2".toList = false ∧
    (general? "Infinity".toList).isSome = true ∧ isPlain "Infinity".toList = false := by
  decide +kernel

end Numeral

namespace WrittenTerm

def value (w : WrittenTerm) : ℚ := w.numerator / w.denominator

theorem correctlyRounded_nearest (w : WrittenTerm) : w.nearest.CorrectlyRounded w.value :=
  Binary64.correctlyRounded_ofRatio w.denominator_pos w.numerator

end WrittenTerm

namespace RangeTerm

variable {term : String}

theorem read?_eq_some_iff {t : RangeTerm} : read? term = some t ↔
    ∃ w : WrittenTerm, w.Spells term ∧ t.comparison = w.comparison ∧
      t.value.CorrectlyRounded w.value ∧ t.value.isFinite = true := by
  constructor
  · intro read
    obtain ⟨w, spells⟩ := WrittenTerm.exists_spells_of_read? read
    rw [spells.read?] at read
    obtain ⟨finite, same⟩ := Option.ite_none_right_eq_some.mp read
    cases same
    dsimp only
    exact ⟨w, spells, rfl, w.correctlyRounded_nearest, finite⟩
  · rintro ⟨w, spells, compared, rounded, finite⟩
    have same : t.value = w.nearest := rounded.unique w.correctlyRounded_nearest
    rw [same] at finite
    rw [spells.read?, if_pos finite, ← same, ← compared]

theorem exists_read?_iff : (∃ t, read? term = some t) ↔
    ∃ w : WrittenTerm, w.Spells term ∧ w.value < Binary64.overflowBound := by
  constructor
  · rintro ⟨t, read⟩
    obtain ⟨w, spells, -, rounded, finite⟩ := read?_eq_some_iff.mp read
    exact ⟨w, spells, rounded.isFinite_iff.mp finite⟩
  · rintro ⟨w, spells, below⟩
    have finite := w.correctlyRounded_nearest.isFinite_iff.mpr below
    exact ⟨_, by rw [spells.read?, if_pos finite]⟩

theorem range_terms_read_by_grammar (term : String) :
    (∀ t, read? term = some t ↔ ∃ w : WrittenTerm, w.Spells term ∧ t.comparison = w.comparison ∧
      t.value.CorrectlyRounded w.value ∧ t.value.isFinite = true) ∧
    ((∃ t, read? term = some t) ↔
      ∃ w : WrittenTerm, w.Spells term ∧ w.value < Binary64.overflowBound) ∧
    ∀ numeral, (Numeral.isPlain numeral = true → ∃ x, Numeral.general? numeral = some x) ∧
      Numeral.ofPlain? numeral =
        if Numeral.isPlain numeral = true then Numeral.general? numeral else none :=
  ⟨fun _ => read?_eq_some_iff, exists_read?_iff, fun numeral =>
    ⟨Numeral.exists_general?_of_isPlain, Numeral.ofPlain?_eq numeral⟩⟩

end RangeTerm
end Catalog
