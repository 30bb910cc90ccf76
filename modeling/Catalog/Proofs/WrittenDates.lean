import Catalog.Proofs.FixedWidth
import Catalog.Time.Reader

set_option autoImplicit false

namespace Catalog

open Numeral

namespace Instant

structure Valid (t : Instant) : Prop where
  time : t.isValidTime = true
  nanosecond : t.nanosecond < 10 ^ 9

def clock (t : Instant) : List Nat :=
  [t.date.month, t.date.day, t.hour, t.minute, t.second]

theorem daysInMonth_le (year : Int) (month : Nat) : Date.daysInMonth year month ≤ 31 := by
  unfold Date.daysInMonth
  split_ifs <;> decide

theorem Valid.clock_lt {t : Instant} (valid : t.Valid) : ∀ n ∈ t.clock, n < 10 ^ 2 := by
  have time := valid.time
  have days := daysInMonth_le t.date.year t.date.month
  simp only [isValidTime, Date.isValid, Bool.and_eq_true, decide_eq_true_eq] at time
  simp only [clock, List.forall_mem_cons]
  refine ⟨?_, ?_, ?_, ?_, ?_, by simp⟩ <;> omega

theorem notAfter_iff {x y : Instant} :
    x.notAfter y = true ↔ x.date.year < y.date.year ∨ x.date.year = y.date.year ∧
      (x.clock < y.clock ∨ x.clock = y.clock ∧ x.nanosecond ≤ y.nanosecond) := by
  have ordered : x.notAfter y = true ↔ x.parts ≤ y.parts := by
    rw [← not_lt, notAfter, Bool.not_eq_true', ← Bool.not_eq_true]
    exact not_congr List.lex_eq_true_iff_lt
  rw [ordered]
  simp only [parts, clock, le_iff_lt_or_eq, List.cons_lt_cons_iff, List.cons.injEq, or_assoc,
    and_assoc, ← and_or_left, Nat.cast_lt, Nat.cast_inj, lt_irrefl, and_false, and_true, false_or]

section Years

-- Years whose texts are in order though they are not: a plus sign comes before a minus sign and
-- before digits, digits are compared from the left, and negative years by their distance from zero.
inductive YearsMisplaced (a b : Int) : Prop
  | beyond (large : 9999 < a) (small : b ≤ 9999)
  | longer (large : 9999 < a) (large' : 9999 < b)
      (shorter : (yearText b).length < (yearText a).length)
  | negative (below : a < 0) (below' : b < 0) (different : a ≠ b)
      (noLonger : (yearText a).length ≤ (yearText b).length)

theorem not_yearsMisplaced_self (a : Int) : ¬ YearsMisplaced a a := by
  rintro (⟨large, small⟩ | ⟨-, -, shorter⟩ | ⟨-, -, different, -⟩)
  · omega
  · exact lt_irrefl _ shorter
  · exact different rfl

theorem yearText_negative {a : Int} (below : a < 0) :
    yearText a = ['-'] ++ padded 4 a.natAbs := by
  rw [yearText, if_neg (by omega), if_pos below]
  rfl

theorem yearText_large {a : Int} (large : 9999 < a) :
    yearText a = ['+'] ++ padded 4 a.natAbs := by
  rw [yearText, if_neg (by omega), if_neg (by omega)]
  rfl

theorem yearText_plain {a : Int} (low : 0 ≤ a) (high : a ≤ 9999) :
    yearText a = padded 4 a.natAbs :=
  if_pos ⟨low, high⟩

theorem cons_lt_padded_append {sign : Char} (before : sign < '0') (n : Nat)
    (rest rest' : List Char) : sign :: rest < padded 4 n ++ rest' := by
  obtain ⟨d, ds, parts⟩ : ∃ d ds, padded 4 n = d :: ds := by
    apply List.exists_cons_of_ne_nil
    simp [padded, digits, Nat.toDigits_ne_nil]
  have digit : isDigit d = true := isDigit_of_mem_padded (parts ▸ List.mem_cons_self)
  have low : '0' ≤ d := by
    simp only [isDigit, Bool.and_eq_true, decide_eq_true_eq] at digit
    exact digit.1
  rw [parts, List.cons_append, List.cons_lt_cons_iff]
  exact .inl (lt_of_lt_of_le before low)

variable {a b : Int} {rest rest' : List Char}

theorem signed_mark_le (sign : List Char) (text : yearText a = sign ++ padded 4 a.natAbs)
    (text' : yearText b = sign ++ padded 4 b.natAbs)
    (ordered : yearText a ++ '-' :: rest ≤ yearText b ++ '-' :: rest') :
    a.natAbs = b.natAbs ∧ rest ≤ rest' ∨
      a.natAbs < b.natAbs ∧ (yearText a).length ≤ (yearText b).length ∨
      b.natAbs < a.natAbs ∧ (yearText b).length < (yearText a).length := by
  rw [text, text', List.append_assoc, List.append_assoc, append_le_append_left_iff] at ordered
  rw [text, text', List.length_append, List.length_append, Nat.add_le_add_iff_left,
    Nat.add_lt_add_iff_left]
  rcases lt_trichotomy (padded 4 a.natAbs).length (padded 4 b.natAbs).length with
    shorter | same | longer
  · exact .inr (.inl ⟨lt_of_length_padded_lt (by decide) shorter, shorter.le⟩)
  · rw [padded_append_le_iff same, cons_le_cons_iff] at ordered
    rcases ordered with less | ⟨equal, mark | ⟨-, later⟩⟩
    · exact .inr (.inl ⟨less, same.le⟩)
    · exact absurd mark (lt_irrefl _)
    · exact .inl ⟨equal, later⟩
  · exact .inr (.inr ⟨lt_of_length_padded_lt (by decide) longer, longer⟩)

theorem negative_mark_le (below : a < 0) (below' : b < 0)
    (ordered : yearText a ++ '-' :: rest ≤ yearText b ++ '-' :: rest') :
    a = b ∧ rest ≤ rest' ∨ a < b ∧ ¬ YearsMisplaced a b ∨ b < a ∧ YearsMisplaced a b := by
  rcases signed_mark_le _ (yearText_negative below) (yearText_negative below') ordered with
    ⟨equal, later⟩ | ⟨less, noLonger⟩ | ⟨more, longer⟩
  · exact .inl ⟨by omega, later⟩
  · exact .inr (.inr ⟨by omega, .negative below below' (by omega) noLonger⟩)
  · refine .inr (.inl ⟨by omega, ?_⟩)
    rintro (⟨large, -⟩ | ⟨large, -, -⟩ | ⟨-, -, -, noLonger⟩) <;> omega

theorem large_mark_le (large : 9999 < a) (large' : 9999 < b)
    (ordered : yearText a ++ '-' :: rest ≤ yearText b ++ '-' :: rest') :
    a = b ∧ rest ≤ rest' ∨ a < b ∧ ¬ YearsMisplaced a b ∨ b < a ∧ YearsMisplaced a b := by
  rcases signed_mark_le _ (yearText_large large) (yearText_large large') ordered with
    ⟨equal, later⟩ | ⟨less, noLonger⟩ | ⟨more, longer⟩
  · exact .inl ⟨by omega, later⟩
  · refine .inr (.inl ⟨by omega, ?_⟩)
    rintro (⟨-, small⟩ | ⟨-, -, shorter⟩ | ⟨below, -, -, -⟩) <;> omega
  · exact .inr (.inr ⟨by omega, .longer large large' longer⟩)

theorem plain_mark_le (low : 0 ≤ a) (high : a ≤ 9999) (low' : 0 ≤ b) (high' : b ≤ 9999)
    (ordered : yearText a ++ '-' :: rest ≤ yearText b ++ '-' :: rest') :
    a = b ∧ rest ≤ rest' ∨ a < b := by
  have text := yearText_plain low high
  have text' := yearText_plain low' high'
  have size : (yearText a).length = 4 := by
    rw [text]
    exact length_padded (by decide) (by omega)
  have size' : (yearText b).length = 4 := by
    rw [text']
    exact length_padded (by decide) (by omega)
  rcases signed_mark_le [] text text' ordered with
    ⟨equal, later⟩ | ⟨less, -⟩ | ⟨-, longer⟩
  · exact .inl ⟨by omega, later⟩
  · exact .inr (by omega)
  · omega

theorem yearText_mark_le (ordered : yearText a ++ '-' :: rest ≤ yearText b ++ '-' :: rest') :
    a = b ∧ rest ≤ rest' ∨ a < b ∧ ¬ YearsMisplaced a b ∨ b < a ∧ YearsMisplaced a b := by
  have kinds (c : Int) : c < 0 ∨ 0 ≤ c ∧ c ≤ 9999 ∨ 9999 < c := by omega
  have kept (atMost : a ≤ 9999) (atLeast : 0 ≤ b) : ¬ YearsMisplaced a b := by
    rintro (⟨large, -⟩ | ⟨large, -, -⟩ | ⟨-, below, -, -⟩) <;> omega
  rcases kinds a with below | ⟨low, high⟩ | large
  · rcases kinds b with below' | ⟨low', high'⟩ | large'
    · exact negative_mark_le below below' ordered
    · exact .inr (.inl ⟨by omega, kept (by omega) low'⟩)
    · exact .inr (.inl ⟨by omega, kept (by omega) (by omega)⟩)
  · rcases kinds b with below' | ⟨low', high'⟩ | large'
    · rw [yearText_plain low high, yearText_negative below'] at ordered
      exact absurd ordered (not_le.mpr (cons_lt_padded_append (by decide) _ _ _))
    · rcases plain_mark_le low high low' high' ordered with equal | less
      · exact .inl equal
      · exact .inr (.inl ⟨less, kept high low'⟩)
    · exact .inr (.inl ⟨by omega, kept high (by omega)⟩)
  · rcases kinds b with below' | ⟨low', high'⟩ | large'
    · exact .inr (.inr ⟨by omega, .beyond large (by omega)⟩)
    · exact .inr (.inr ⟨by omega, .beyond large high'⟩)
    · exact large_mark_le large large' ordered

end Years

section Fractions

variable {m n : Nat}

def pointed (digits : List Char) : List Char :=
  if digits = [] then [] else '.' :: digits

structure Fraction (n : Nat) (digits : List Char) : Prop where
  digit : ∀ c ∈ digits, isDigit c = true
  length : digits.length ≤ 9
  value : ofLeading 9 digits = n
  text : fractionText n = pointed digits

theorem fraction_padded (width count : Nat) (positive : 0 < width) (room : width ≤ 9)
    (small : count < 10 ^ width) (whole : count * 10 ^ (9 - width) = n)
    (text : fractionText n = '.' :: padded width count) : Fraction n (padded width count) := by
  have length := length_padded positive small
  refine ⟨fun _ => isDigit_of_mem_padded, by omega, ?_, ?_⟩
  · rw [ofLeading, ofDigits_padded, length, whole]
  · have nonempty : padded width count ≠ [] := List.ne_nil_of_length_pos (by omega)
    rw [text, pointed, if_neg nonempty]

theorem exists_fraction (small : n < 10 ^ 9) : ∃ digits, Fraction n digits := by
  by_cases zero : n = 0
  · exact ⟨[], by simp, by simp, by simp [ofLeading, ofDigits, zero], if_pos zero⟩
  by_cases millis : n % 1000000 = 0
  · refine ⟨_, fraction_padded 3 (n / 1000000) (by decide) (by decide) (by omega) (by omega) ?_⟩
    rw [fractionText, if_neg zero, if_pos millis]
  by_cases micros : n % 1000 = 0
  · refine ⟨_, fraction_padded 6 (n / 1000) (by decide) (by decide) (by omega) (by omega) ?_⟩
    rw [fractionText, if_neg zero, if_neg millis, if_pos micros]
  · refine ⟨_, fraction_padded 9 n (by decide) (by decide) small (by omega) ?_⟩
    rw [fractionText, if_neg zero, if_neg millis, if_neg micros]

theorem mark_after_digit {c : Char} (digit : isDigit c = true) : c < 'Z' := by
  have bounds := isDigit_iff.mp digit
  change c.toNat < 0x5A
  omega

-- Along the two lists: while the digits agree, either may end, and the mark that is then compared
-- with a digit comes after it.
theorem ofLeading_le_or_prefix {cs ds : List Char} {width : Nat}
    (digits : ∀ c ∈ cs, isDigit c = true) (digits' : ∀ d ∈ ds, isDigit d = true)
    (room : cs.length ≤ width) (room' : ds.length ≤ width)
    (ordered : cs ++ ['Z'] ≤ ds ++ ['Z']) :
    ofLeading width cs ≤ ofLeading width ds ∨ ds <+: cs := by
  induction cs generalizing ds width with
  | nil =>
    cases ds with
    | nil => exact .inl le_rfl
    | cons d ds =>
      have before := mark_after_digit (digits' d List.mem_cons_self)
      rcases cons_le_cons_iff.mp ordered with less | ⟨equal, -⟩
      · exact absurd less before.asymm
      · exact absurd equal before.ne'
  | cons c cs ih =>
    cases ds with
    | nil => exact .inr (List.nil_prefix)
    | cons d ds =>
      obtain ⟨width, rfl⟩ : ∃ below, width = below + 1 := Nat.exists_eq_add_one.mpr (by
        rw [List.length_cons] at room
        omega)
      have later := fun e member => digits e (List.mem_cons_of_mem c member)
      have later' := fun e member => digits' e (List.mem_cons_of_mem d member)
      rw [List.length_cons, Nat.add_le_add_iff_right] at room room'
      rw [List.cons_append, List.cons_append, cons_le_cons_iff] at ordered
      rw [ofLeading_cons room, ofLeading_cons room', List.cons_prefix_cons]
      rcases ordered with less | ⟨rfl, behind⟩
      · have value := (digitValue_lt_iff (digits c List.mem_cons_self)
          (digits' d List.mem_cons_self)).mpr less
        have compared := (unit_lex (ofLeading_lt room later) (ofLeading_lt room' later')
          False).mpr (.inl value)
        exact .inl (compared.resolve_right And.right).le
      · rcases ih later later' room room' behind with atMost | inside
        · exact .inl (Nat.add_le_add_left atMost _)
        · exact .inr ⟨rfl, inside⟩

theorem pointed_prefix_iff {cs ds : List Char} : pointed cs <+: pointed ds ↔ cs <+: ds := by
  cases cs <;> cases ds <;> simp [pointed]

theorem pointed_inj {cs ds : List Char} : pointed cs = pointed ds ↔ cs = ds := by
  cases cs <;> cases ds <;> simp [pointed]

theorem pointed_mark_le_iff {cs ds : List Char} (digits : ∀ c ∈ cs, isDigit c = true)
    (digits' : ∀ d ∈ ds, isDigit d = true) :
    pointed cs ++ ['Z'] ≤ pointed ds ++ ['Z'] ↔ cs ++ ['Z'] ≤ ds ++ ['Z'] := by
  have point : '.' < 'Z' := by decide
  cases cs with
  | nil =>
    cases ds with
    | nil => rfl
    | cons d ds =>
      have before := mark_after_digit (digits' d List.mem_cons_self)
      simp [pointed, cons_le_cons_iff, before.asymm, before.ne', point.asymm]
  | cons c cs =>
    have before := mark_after_digit (digits c List.mem_cons_self)
    cases ds with
    | nil => simp [pointed, cons_le_cons_iff, before, point]
    | cons d ds => simp [pointed, cons_le_cons_iff]

theorem le_iff_of_fractionText_le (small : m < 10 ^ 9) (small' : n < 10 ^ 9)
    (ordered : fractionText m ++ ['Z'] ≤ fractionText n ++ ['Z']) :
    m ≤ n ↔ ¬ (fractionText n <+: fractionText m ∧ fractionText n ≠ fractionText m) := by
  obtain ⟨cs, first⟩ := exists_fraction small
  obtain ⟨ds, second⟩ := exists_fraction small'
  rw [first.text, second.text, pointed_mark_le_iff first.digit second.digit] at ordered
  constructor
  · rintro atMost ⟨inside, different⟩
    rw [first.text, second.text, pointed_prefix_iff] at inside
    obtain ⟨more, rfl⟩ := inside
    have atLeast := ofLeading_le_append first.length
    rw [first.value, second.value] at atLeast
    exact different (congrArg fractionText (le_antisymm atLeast atMost))
  · intro kept
    rw [first.text, second.text, pointed_prefix_iff] at kept
    rcases ofLeading_le_or_prefix first.digit second.digit first.length second.length ordered with
      atMost | inside
    · rwa [first.value, second.value] at atMost
    · have same : ds = cs := by
        by_contra different
        exact kept ⟨inside, fun texts => different (pointed_inj.mp texts)⟩
      rw [← first.value, ← second.value, same]

end Fractions

section Texts

variable {x y : Instant}

inductive Misplaced (x y : Instant) : Prop
  | years (misplaced : YearsMisplaced x.date.year y.date.year)
  | fraction (sameSecond : x = { y with nanosecond := x.nanosecond })
      (cut : fractionText y.nanosecond <+: fractionText x.nanosecond)
      (more : fractionText y.nanosecond ≠ fractionText x.nanosecond)

def afterYear (t : Instant) : List Char :=
  padded 2 t.date.month ++ '-' :: (padded 2 t.date.day ++ 'T' :: (padded 2 t.hour ++ ':' ::
    (padded 2 t.minute ++ ':' :: (padded 2 t.second ++ (fractionText t.nanosecond ++ ['Z'])))))

theorem toList_text (t : Instant) : t.text.toList = yearText t.date.year ++ '-' :: t.afterYear := by
  simp [text, afterYear]

theorem padded_two_le_iff {m n : Nat} (small : m < 10 ^ 2) (small' : n < 10 ^ 2)
    (rest rest' : List Char) :
    padded 2 m ++ rest ≤ padded 2 n ++ rest' ↔ m < n ∨ m = n ∧ rest ≤ rest' := by
  apply padded_append_le_iff
  rw [length_padded (by decide) small, length_padded (by decide) small']

theorem afterYear_le_iff (valid : x.Valid) (valid' : y.Valid) :
    x.afterYear ≤ y.afterYear ↔ x.clock < y.clock ∨ x.clock = y.clock ∧
      fractionText x.nanosecond ++ ['Z'] ≤ fractionText y.nanosecond ++ ['Z'] := by
  have small := valid.clock_lt
  have small' := valid'.clock_lt
  simp only [clock, List.forall_mem_cons] at small small'
  obtain ⟨month, day, hour, minute, second, -⟩ := small
  obtain ⟨month', day', hour', minute', second', -⟩ := small'
  rw [afterYear, afterYear, padded_two_le_iff month month', cons_le_cons_iff,
    padded_two_le_iff day day', cons_le_cons_iff, padded_two_le_iff hour hour', cons_le_cons_iff,
    padded_two_le_iff minute minute', cons_le_cons_iff, padded_two_le_iff second second']
  simp only [clock, List.cons_lt_cons_iff, List.cons.injEq, or_assoc, and_assoc, ← and_or_left,
    lt_irrefl, false_or, true_and]

theorem sameSecond_of_clock (year : x.date.year = y.date.year) (same : x.clock = y.clock) :
    x = { y with nanosecond := x.nanosecond } := by
  obtain ⟨⟨_, _, _⟩, _, _, _, _⟩ := x
  simp only [clock, List.cons.injEq] at same
  obtain ⟨rfl, rfl, rfl, rfl, rfl, -⟩ := same
  cases year
  rfl

theorem not_misplaced_of_other_second (kept : ¬ YearsMisplaced x.date.year y.date.year)
    (other : x ≠ { y with nanosecond := x.nanosecond }) : ¬ Misplaced x y := by
  intro misplaced
  cases misplaced with
  | years misplaced => exact kept misplaced
  | fraction sameSecond cut more => exact other sameSecond

theorem misplaced_iff_of_sameSecond (sameSecond : x = { y with nanosecond := x.nanosecond }) :
    Misplaced x y ↔ fractionText y.nanosecond <+: fractionText x.nanosecond ∧
      fractionText y.nanosecond ≠ fractionText x.nanosecond := by
  have year : x.date.year = y.date.year := congrArg (·.date.year) sameSecond
  constructor
  · intro misplaced
    cases misplaced with
    | years misplaced =>
      rw [year] at misplaced
      exact absurd misplaced (not_yearsMisplaced_self _)
    | fraction _ cut more => exact ⟨cut, more⟩
  · intro ⟨cut, more⟩
    exact .fraction sameSecond cut more

theorem notAfter_iff_not_misplaced (valid : x.Valid) (valid' : y.Valid)
    (ordered : x.text ≤ y.text) : x.notAfter y = true ↔ ¬ Misplaced x y := by
  rw [String.le_iff_toList_le, toList_text, toList_text] at ordered
  rw [notAfter_iff]
  rcases yearText_mark_le ordered with ⟨year, later⟩ | ⟨less, kept⟩ | ⟨more, misplaced⟩
  · rcases (afterYear_le_iff valid valid').mp later with less | ⟨same, fractions⟩
    · have kept : ¬ YearsMisplaced x.date.year y.date.year := year ▸ not_yearsMisplaced_self _
      have other : x ≠ { y with nanosecond := x.nanosecond } := by
        intro second
        have clocks := congrArg clock second
        exact less.ne clocks
      exact iff_of_true (.inr ⟨year, .inl less⟩) (not_misplaced_of_other_second kept other)
    · have compared := le_iff_of_fractionText_le valid.nanosecond valid'.nanosecond fractions
      rw [misplaced_iff_of_sameSecond (sameSecond_of_clock year same), ← compared]
      simp [year, same]
  · have other : x ≠ { y with nanosecond := x.nanosecond } := by
      intro second
      have years := congrArg (·.date.year) second
      exact less.ne years
    exact iff_of_true (.inl less) (not_misplaced_of_other_second kept other)
  · refine iff_of_false ?_ (not_not_intro (.years misplaced))
    omega

end Texts

end Instant
end Catalog
