import Catalog.Proofs.FixedWidth
import Catalog.Proofs.Ranges
import Catalog.Proofs.NearestNumber

set_option autoImplicit false

namespace Catalog

namespace Numeral

variable {cs whole fraction : List Char}

structure Spells (whole fraction cs : List Char) : Prop where
  digits : ∀ c ∈ whole ++ fraction, isDigit c = true
  nonempty : whole ++ fraction ≠ []
  text : cs = whole ∧ fraction = [] ∨ cs = whole ++ '.' :: fraction

theorem Spells.splitPlain? (spells : Spells whole fraction cs) :
    splitPlain? cs = some (whole, fraction) := by
  obtain ⟨digits, nonempty, text⟩ := spells
  have before : ∀ c ∈ whole, isDigit c = true :=
    fun c member => digits c (List.mem_append_left _ member)
  have after : fraction.all isDigit = true :=
    List.all_eq_true.mpr fun c member => digits c (List.mem_append_right _ member)
  have given : (whole.isEmpty && fraction.isEmpty) = false := by
    rw [Bool.eq_false_iff]
    simpa using nonempty
  rcases text with ⟨rfl, rfl⟩ | rfl
  · have rest : cs.dropWhile isDigit = [] := List.dropWhile_eq_nil_iff.mpr before
    have all : cs.takeWhile isDigit = cs := List.takeWhile_eq_self_iff.mpr before
    simp only [Numeral.splitPlain?, rest, all, given, Bool.false_eq_true, if_false]
  · have point : isDigit '.' = false := by decide
    have rest : (whole ++ '.' :: fraction).dropWhile isDigit = '.' :: fraction := by
      rw [List.dropWhile_append_of_pos before, List.dropWhile_cons_of_neg (by simp [point])]
    have all : (whole ++ '.' :: fraction).takeWhile isDigit = whole := by
      rw [List.takeWhile_append_of_pos before, List.takeWhile_cons_of_neg (by simp [point]),
        List.append_nil]
    simp only [Numeral.splitPlain?, rest, all, after, given, decide_true, Bool.and_self, if_true,
      Bool.false_eq_true, if_false]

theorem spells_of_splitPlain? (split : splitPlain? cs = some (whole, fraction)) :
    Spells whole fraction cs := by
  have before : ∀ c ∈ cs.takeWhile isDigit, isDigit c = true := fun c => List.mem_takeWhile_imp
  have parts : cs.takeWhile isDigit ++ cs.dropWhile isDigit = cs := List.takeWhile_append_dropWhile
  unfold splitPlain? at split
  dsimp only at split
  generalize cs.takeWhile isDigit = digits at before parts split
  cases behind : cs.dropWhile isDigit with
  | nil =>
    rw [behind] at parts split
    obtain ⟨given, read⟩ := Option.ite_none_left_eq_some.mp split
    cases read
    refine ⟨by simpa using before, by simpa using given, .inl ⟨?_, rfl⟩⟩
    rw [← parts, List.append_nil]
  | cons c rest =>
    rw [behind] at parts split
    dsimp only at split
    by_cases point : (c = '.' && rest.all isDigit) = true
    · rw [if_pos point] at split
      obtain ⟨given, read⟩ := Option.ite_none_left_eq_some.mp split
      cases read
      simp only [Bool.and_eq_true, decide_eq_true_eq, List.all_eq_true] at point
      refine ⟨?_, by simpa using given, .inr ?_⟩
      · intro d member
        exact (List.mem_append.mp member).elim (before d) (point.2 d)
      · rw [← parts, point.1]
    · rw [if_neg point] at split
      cases split

theorem eq_zero_of_ofDigits (digits : ∀ c ∈ cs, isDigit c = true) (none : ofDigits cs = 0) :
    ∀ c ∈ cs, c = '0' := by
  induction cs with
  | nil => exact List.forall_mem_nil _
  | cons c cs ih =>
    obtain ⟨first, later⟩ := List.forall_mem_cons.mp digits
    rw [ofDigits_cons, Nat.add_eq_zero_iff] at none
    have zero : digitValue c = digitValue '0' :=
      (Nat.mul_eq_zero.mp none.1).resolve_right (Nat.pow_pos (by decide)).ne'
    exact List.forall_mem_cons.mpr ⟨(digitValue_inj first (by decide)).mp zero, ih later none.2⟩

end Numeral

theorem Comparison.ofName?_name (c : Comparison) : ofName? c.name = some c := by
  cases c <;> decide

theorem Comparison.name_of_ofName? {s : String} {c : Comparison} (named : ofName? s = some c) :
    c.name = s := by
  simpa using List.find?_some named

theorem Comparison.underscore_not_mem_name (c : Comparison) : '_' ∉ c.name.toList := by
  cases c <;> decide

structure WrittenTerm where
  comparison : Comparison
  whole : List Char
  fraction : List Char

namespace WrittenTerm

variable {w : WrittenTerm} {term : String}

def Spells (w : WrittenTerm) (term : String) : Prop :=
  ∃ numeral, term.toList = w.comparison.name.toList ++ '_' :: numeral ∧
    Numeral.Spells w.whole w.fraction numeral

def numerator (w : WrittenTerm) : Nat := Numeral.ofDigits (w.whole ++ w.fraction)

def denominator (w : WrittenTerm) : Nat := 10 ^ w.fraction.length

def nearest (w : WrittenTerm) : Binary64 := .ofRatio false w.numerator w.denominator

theorem denominator_pos (w : WrittenTerm) : 0 < w.denominator := Nat.pow_pos (by decide)

theorem Spells.read? (spells : w.Spells term) :
    RangeTerm.read? term =
      if w.nearest.isFinite then some ⟨w.comparison, w.nearest⟩ else none := by
  obtain ⟨numeral, text, digits⟩ := spells
  have name : ∀ c ∈ w.comparison.name.toList, decide (c ≠ '_') = true := by
    intro c member
    rw [decide_eq_true_eq]
    rintro rfl
    exact w.comparison.underscore_not_mem_name member
  have rest : term.toList.dropWhile (· ≠ '_') = '_' :: numeral := by
    rw [text, List.dropWhile_append_of_pos name, List.dropWhile_cons_of_neg (by simp)]
  have front : term.toList.takeWhile (· ≠ '_') = w.comparison.name.toList := by
    rw [text, List.takeWhile_append_of_pos name, List.takeWhile_cons_of_neg (by simp),
      List.append_nil]
  have value : Numeral.ofPlain? numeral = some w.nearest := by
    rw [Numeral.ofPlain?, digits.splitPlain?]
    rfl
  simp only [RangeTerm.read?, rest, front, String.ofList_toList, Comparison.ofName?_name, value]

theorem exists_spells_of_read? {t : RangeTerm} (read : RangeTerm.read? term = some t) :
    ∃ w : WrittenTerm, w.Spells term := by
  simp only [RangeTerm.read?] at read
  split at read
  next => cases read
  next underscore numeral behind =>
    have parts : term.toList.takeWhile (· ≠ '_') ++ term.toList.dropWhile (· ≠ '_') =
        term.toList := List.takeWhile_append_dropWhile
    have mark : underscore = '_' := by
      have skipped := List.head?_dropWhile_not (fun c => decide (c ≠ '_')) term.toList
      rw [behind] at skipped
      simpa using skipped
    split at read
    next comparison value named number =>
      obtain ⟨⟨whole, fraction⟩, split, -⟩ := Option.map_eq_some_iff.mp number
      have name := Comparison.name_of_ofName? named
      have rest : '_' :: numeral = term.toList.dropWhile (· ≠ '_') := by
        rw [behind, mark]
      refine ⟨⟨comparison, whole, fraction⟩, numeral, ?_, Numeral.spells_of_splitPlain? split⟩
      rw [name, String.toList_ofList, rest, parts]
    next => cases read

def IsInteger (w : WrittenTerm) : Prop := ∀ c ∈ w.fraction, c = '0'

def integer (w : WrittenTerm) : Nat := Numeral.ofDigits w.whole

-- Only such a numeral can be rounded to a whole number without being one.
def IsLong (w : WrittenTerm) : Prop := 2 ^ 53 ≤ w.numerator ∨ 324 ≤ w.fraction.length

theorem numerator_eq (w : WrittenTerm) :
    w.numerator = w.integer * w.denominator + Numeral.ofDigits w.fraction :=
  Numeral.ofDigits_append _ _

theorem nearest_of_isInteger (whole : w.IsInteger) : w.nearest = .ofInt w.integer := by
  have zeros : w.fraction = List.replicate w.fraction.length '0' := List.eq_replicate_of_mem whole
  have exact : w.numerator = w.integer * w.denominator := by
    rw [numerator_eq, zeros, Numeral.ofDigits_replicate_zero, Nat.add_zero]
  rw [nearest, exact, Binary64.ofRatio_mul w.denominator_pos]

theorem Spells.isInteger_or_isLong (spells : w.Spells term) (whole : w.nearest.isWhole = true) :
    w.IsInteger ∨ w.IsLong := by
  obtain ⟨numeral, -, ⟨digits, -, -⟩⟩ := spells
  have behind : ∀ c ∈ w.fraction, Numeral.isDigit c = true :=
    fun c member => digits c (List.mem_append_right _ member)
  rcases Binary64.dvd_of_isWhole w.denominator_pos whole with exact | large | fine
  · left
    rw [numerator_eq, Nat.dvd_add_right (Nat.dvd_mul_left _ _)] at exact
    apply Numeral.eq_zero_of_ofDigits behind
    exact Nat.eq_zero_of_dvd_of_lt exact (Numeral.ofDigits_lt behind)
  · exact .inr (.inl large)
  · right
    right
    by_contra short
    have coarse := Binary64.ten_pow_lt w.fraction.length (Nat.lt_of_not_le short)
    exact Nat.not_lt.mpr fine coarse

end WrittenTerm
end Catalog
