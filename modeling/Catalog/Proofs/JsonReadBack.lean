import Catalog.Json.Printer
import Catalog.Json.Reader
import Catalog.Proofs.Identifiers
import Mathlib.Data.List.Forall2

set_option autoImplicit false

namespace Catalog

namespace Numeral

theorem head?_digits_ne_zero {n : Nat} (positive : 0 < n) : (digits n).head? ≠ some '0' := by
  induction n using Nat.strongRecOn with
  | _ n ih =>
    have single : ∀ d < 10, 0 < d → some (Nat.digitChar d) ≠ some '0' := by decide
    unfold digits
    rw [Nat.toDigits_eq_if (by decide)]
    split
    next small => exact single n small positive
    next large =>
      rw [List.head?_append_of_ne_nil _ Nat.toDigits_ne_nil]
      exact ih (n / 10) (by omega) (by omega)

theorem digits_ne_nil (n : Nat) : digits n ≠ [] := Nat.toDigits_ne_nil

theorem isDigit_of_digits_append {n : Nat} {c : Char} {rest behind : List Char}
    (begins : digits n ++ rest = c :: behind) : isDigit c = true := by
  have first := congrArg List.head? begins
  rw [List.head?_append_of_ne_nil _ (digits_ne_nil n)] at first
  exact isDigit_of_mem_digits (List.mem_of_head? first)

theorem digits_no_padding {n : Nat} {rest : List Char} (padded : digits n = '0' :: rest) :
    rest = [] := by
  rcases Nat.eq_zero_or_pos n with rfl | positive
  · cases padded
    rfl
  · exact absurd (congrArg List.head? padded) (head?_digits_ne_zero positive)

end Numeral

namespace Document

open Json (hexDigit escapeChar quote compact)

section Strings

theorem hexValue?_hexDigit : ∀ n < 16, hexValue? (hexDigit n) = some n := by decide

theorem joinParts_small_unit {code : Nat} (small : code < 0x20) (parts : List StringPart) :
    joinParts (.unit code :: parts) = (joinParts parts).map (Char.ofNat code :: ·) := by
  have notHigh : isHighSurrogate code = false := by
    simp [isHighSurrogate]
    omega
  have notLow : isLowSurrogate code = false := by
    simp [isLowSurrogate]
    omega
  rcases parts with _ | ⟨_ | _, parts⟩ <;> simp [joinParts, notHigh, notLow]

structure Escapes (c : Char) (text : List Char) (part : StringPart) : Prop where
  reads : ∀ rest, stringParts (text ++ rest) =
    (stringParts rest).map fun (parts, rest) => (part :: parts, rest)
  joins : ∀ parts, joinParts (part :: parts) = (joinParts parts).map (c :: ·)

theorem escapes_letter {c e : Char} (read : escapedChar? e = some c) :
    Escapes c ['\\', e] (.char c) where
  reads rest := by
    have other : e ≠ 'u' := by
      rintro rfl
      cases read
    rw [List.cons_append, List.cons_append, List.nil_append, stringParts]
    · rw [read]
      cases stringParts rest <;> rfl
    · intro a b c d rest same
      exact absurd same other
  joins parts := by rw [joinParts]

theorem escapes_unit {code : Nat} (small : code < 0x20) :
    Escapes (Char.ofNat code) ['\\', 'u', '0', '0', hexDigit (code / 16), hexDigit (code % 16)]
      (.unit code) where
  reads rest := by
    have digits : unitOf? '0' '0' (hexDigit (code / 16)) (hexDigit (code % 16)) = some code := by
      have zero : hexValue? '0' = some 0 := rfl
      simp only [unitOf?, zero, hexValue?_hexDigit (code / 16) (by omega),
        hexValue?_hexDigit (code % 16) (by omega)]
      simp
      omega
    simp only [List.cons_append, List.nil_append, stringParts, digits]
    cases stringParts rest <;> rfl
  joins := joinParts_small_unit small

theorem escapes_plain {c : Char} (visible : ¬c.toNat < 0x20) (noQuote : c ≠ '"')
    (noBackslash : c ≠ '\\') : Escapes c [c] (.char c) where
  reads rest := by
    rw [List.singleton_append, stringParts]
    · simp [visible, noBackslash]
    all_goals simp [noQuote, noBackslash]
  joins parts := by rw [joinParts]

theorem exists_escapes (c : Char) : ∃ part, Escapes c (escapeChar c) part := by
  have letter {d e : Char} (read : escapedChar? e = some d) (code : c.toNat = d.toNat) :
      ∃ part, Escapes c ['\\', e] part := by
    rw [Char.toNat_inj.mp code]
    exact ⟨_, escapes_letter read⟩
  unfold escapeChar
  split
  iterate 7 next code => exact letter rfl code
  next noQuote noBackslash _ _ _ _ _ =>
    split
    next small =>
      have unit := escapes_unit small
      rw [Char.ofNat_toNat] at unit
      exact ⟨_, unit⟩
    next visible =>
      refine ⟨_, escapes_plain visible ?_ ?_⟩
      · rintro rfl
        exact noQuote rfl
      · rintro rfl
        exact noBackslash rfl

theorem stringParts_escaped (cs rest : List Char) : ∃ parts,
    stringParts (cs.flatMap escapeChar ++ '"' :: rest) = some (parts, rest) ∧
      joinParts parts = some cs := by
  induction cs with
  | nil => exact ⟨[], rfl, rfl⟩
  | cons c cs ih =>
    obtain ⟨parts, read, joined⟩ := ih
    obtain ⟨part, first⟩ := exists_escapes c
    refine ⟨part :: parts, ?_, ?_⟩
    · rw [List.flatMap_cons, List.append_assoc, first.reads, read]
      rfl
    · rw [first.joins, joined]
      rfl

theorem toList_quote (s : String) :
    (quote s).toList = '"' :: (s.toList.flatMap escapeChar ++ ['"']) := by
  rw [quote, String.toList_ofList]
  rfl

theorem string?_quoted (s : String) (rest : List Char) :
    string? (s.toList.flatMap escapeChar ++ '"' :: rest) = some (some s, rest) := by
  obtain ⟨parts, read, joined⟩ := stringParts_escaped s.toList rest
  rw [string?, read, Option.map_some]
  simp only [joined, Option.map_some, String.ofList_toList]

end Strings

section Numerals

def EndsNumeral (rest : List Char) : Prop :=
  ∀ c ∈ rest.head?, Numeral.isDigit c = false ∧ c ≠ '.' ∧ c ≠ 'e' ∧ c ≠ 'E'

variable {rest : List Char}

theorem takeDigits_append {digits : List Char} (all : ∀ c ∈ digits, Numeral.isDigit c = true)
    (ends : EndsNumeral rest) : takeDigits (digits ++ rest) = (digits, rest) := by
  have stop : rest.takeWhile Numeral.isDigit = [] ∧ rest.dropWhile Numeral.isDigit = rest := by
    cases rest with
    | nil => exact ⟨rfl, rfl⟩
    | cons c rest =>
      have other := (ends c rfl).1
      exact ⟨List.takeWhile_cons_of_neg (by simp [other]),
        List.dropWhile_cons_of_neg (by simp [other])⟩
  rw [takeDigits, List.takeWhile_append_of_pos all, List.dropWhile_append_of_pos all, stop.1,
    stop.2, List.append_nil]

theorem fraction?_of_ends (ends : EndsNumeral rest) : fraction? rest = some (none, rest) := by
  cases rest with
  | nil => rfl
  | cons c rest =>
    have noPoint := (ends c rfl).2.1
    rw [fraction?]
    intro behind same
    exact noPoint (List.cons.inj same).1

theorem exponent?_of_ends (ends : EndsNumeral rest) : exponent? rest = some (none, rest) := by
  cases rest with
  | nil => rfl
  | cons c rest =>
    have noMark := (ends c rfl).2.2
    simp [exponent?, noMark]

def numeralOf (n : Nat) : JsonNumeral := ⟨false, Numeral.digits n, none, none⟩

theorem numeral?_digits (n : Nat) (ends : EndsNumeral rest) :
    numeral? (Numeral.digits n ++ rest) = some (numeralOf n, rest) := by
  have taken := takeDigits_append (fun c => @Numeral.isDigit_of_mem_digits n c) ends
  unfold numeral?
  split
  next negative cs chosen =>
    split at chosen
    next behind sign => exact absurd (Numeral.isDigit_of_digits_append sign) (by decide)
    next =>
      cases chosen
      simp only [taken]
      split
      next none => exact absurd none (Numeral.digits_ne_nil n)
      next padded => cases Numeral.digits_no_padding padded
      next =>
        simp only [fraction?_of_ends ends, exponent?_of_ends ends, Option.bind_eq_bind,
          Option.bind_some]
        rfl

end Numerals

section Values

theorem skipSpace_cons {c : Char} (visible : isJsonSpace c = false) (cs : List Char) :
    skipSpace (c :: cs) = c :: cs :=
  List.dropWhile_cons_of_neg (by simp [visible])

-- Two steps for each character are enough, and one of them is left for the list or the object that
-- the value stands in.
structure Reads (text : List Char) (d : Document) : Prop where
  begins : ∃ c cs, text = c :: cs ∧ isJsonSpace c = false ∧ c ≠ ']'
  reads : ∀ steps rest, 2 * text.length ≤ steps + 2 → EndsNumeral rest →
    value? (steps + 1) (text ++ rest) = some (d, rest)

variable {text : List Char} {d : Document}

theorem reads_null : Reads "null".toList .null where
  begins := ⟨'n', _, rfl, rfl, by decide⟩
  reads _ _ _ _ := rfl

theorem reads_quote (s : String) : Reads (quote s).toList (.text (some s)) where
  begins := ⟨'"', _, toList_quote s, rfl, by decide⟩
  reads steps rest _ _ := by
    have inside := string?_quoted s rest
    rw [toList_quote, List.cons_append, List.append_assoc, List.singleton_append, value?,
      skipSpace_cons rfl]
    simp only [inside, Option.map_some]

theorem reads_digits (n : Nat) : Reads (Numeral.digits n) (.number (numeralOf n)) := by
  obtain ⟨c, cs, whole⟩ := List.exists_cons_of_ne_nil (Numeral.digits_ne_nil n)
  have digit : Numeral.isDigit c = true :=
    Numeral.isDigit_of_mem_digits (whole ▸ List.mem_cons_self)
  have visible : isJsonSpace c = false ∧ c ≠ ']' := by
    have bounds := Numeral.isDigit_iff.mp digit
    constructor
    · simp only [isJsonSpace, Bool.or_eq_false_iff, decide_eq_false_iff_not]
      refine ⟨⟨⟨?_, ?_⟩, ?_⟩, ?_⟩ <;> rintro rfl <;> revert bounds <;> decide
    · rintro rfl
      revert bounds
      decide
  refine ⟨⟨c, cs, whole, visible⟩, ?_⟩
  intro steps rest _ ends
  have same : skipSpace (Numeral.digits n ++ rest) = Numeral.digits n ++ rest := by
    rw [whole, List.cons_append, skipSpace_cons visible.1]
  rw [value?, same]
  split
  iterate 6 next begins => exact absurd (Numeral.isDigit_of_digits_append begins) (by decide)
  next => rw [numeral?_digits n ends, Option.map_some]

def joined (texts : List (List Char)) : List Char := [','].intercalate texts

theorem joined_singleton (text : List Char) : joined [text] = text := List.intercalate_singleton

theorem joined_cons_cons (text other : List Char) (texts : List (List Char)) :
    joined (text :: other :: texts) = text ++ ',' :: joined (other :: texts) := by
  rw [joined, List.intercalate_cons_cons, joined, List.append_assoc, List.singleton_append]

theorem exists_joined_eq_cons (c : Char) (cs : List Char) (texts : List (List Char)) :
    ∃ behind, joined ((c :: cs) :: texts) = c :: behind := by
  cases texts <;> simp [joined_singleton, joined_cons_cons]

theorem endsNumeral_cons {c : Char} (mark : c ∈ [',', ']', '\x7d']) (rest : List Char) :
    EndsNumeral (c :: rest) := by
  intro d same
  cases same
  simp only [List.mem_cons, List.not_mem_nil, or_false] at mark
  rcases mark with rfl | rfl | rfl <;> exact ⟨rfl, by decide⟩

-- The loop ends behind the last entry, and goes on behind a comma with one step less.
structure ReadsEntry {β : Type} (loop : Nat → List Char → Option (List β × List Char))
    (close : Char) (text : List Char) (b : β) : Prop where
  visible : 0 < text.length
  last : ∀ steps rest, 2 * text.length ≤ steps + 2 →
    loop (steps + 2) (text ++ close :: rest) = some ([b], rest)
  next : ∀ steps more, 2 * text.length ≤ steps + 2 →
    loop (steps + 2) (text ++ ',' :: more) =
      (loop (steps + 1) more).map fun (bs, rest) => (b :: bs, rest)

theorem loop_joined {β : Type} {loop : Nat → List Char → Option (List β × List Char)} {close : Char}
    {texts : List (List Char)} {bs : List β} (each : List.Forall₂ (ReadsEntry loop close) texts bs)
    (given : texts ≠ []) {steps : Nat} (enough : 2 * (joined texts).length ≤ steps)
    (rest : List Char) : loop steps (joined texts ++ close :: rest) = some (bs, rest) := by
  induction each generalizing steps with
  | nil => exact absurd rfl given
  | @cons text b texts bs first later ih =>
    have visible := first.visible
    cases later with
    | nil =>
      rw [joined_singleton] at enough ⊢
      obtain ⟨steps, rfl⟩ : ∃ fewer, steps = fewer + 2 := ⟨steps - 2, by omega⟩
      exact first.last steps rest enough
    | @cons other b' texts bs second later =>
      rw [joined_cons_cons, List.append_assoc, List.cons_append]
      rw [joined_cons_cons, List.length_append, List.length_cons] at enough
      obtain ⟨steps, rfl⟩ : ∃ fewer, steps = fewer + 2 := ⟨steps - 2, by omega⟩
      rw [first.next steps _ (by omega), ih (List.cons_ne_nil _ _) (by omega)]
      rfl

theorem Reads.entry (reads : Reads text d) : ReadsEntry items? ']' text d where
  visible := by
    obtain ⟨c, cs, rfl, -⟩ := reads.begins
    exact Nat.succ_pos cs.length
  last steps rest enough := by
    rw [items?, reads.reads steps _ enough (endsNumeral_cons (by decide) rest)]
    simp (disch := decide) only [skipSpace_cons]
  next steps more enough := by
    rw [items?, reads.reads steps _ enough (endsNumeral_cons (by decide) more)]
    simp (disch := decide) only [skipSpace_cons]

def ReadsMember (text : List Char) (member : Option String × Document) : Prop :=
  ∃ name value, text = (quote name).toList ++ ':' :: value ∧ member.1 = some name ∧
    Reads value member.2

theorem ReadsMember.entry {member : Option String × Document} (reads : ReadsMember text member) :
    ReadsEntry members? '\x7d' text member := by
  obtain ⟨name, value, rfl, named, reads⟩ := reads
  obtain ⟨key, d⟩ := member
  cases named
  have quoted (behind : List Char) := string?_quoted name (':' :: (value ++ behind))
  have front (behind : List Char) : (quote name).toList ++ ':' :: value ++ behind =
      '"' :: (name.toList.flatMap escapeChar ++ '"' :: ':' :: (value ++ behind)) := by
    rw [toList_quote]
    simp
  have shorter : value.length < ((quote name).toList ++ ':' :: value).length := by
    rw [List.length_append, List.length_cons]
    omega
  refine ⟨Nat.zero_lt_of_lt shorter, ?_, ?_⟩
  · intro steps rest enough
    have read := reads.reads steps _ (by omega) (endsNumeral_cons (c := '\x7d') (by decide) rest)
    rw [front, members?]
    simp (disch := decide) only [skipSpace_cons, quoted, read]
  · intro steps more enough
    have read := reads.reads steps _ (by omega) (endsNumeral_cons (c := ',') (by decide) more)
    rw [front, members?]
    simp (disch := decide) only [skipSpace_cons, quoted, read]

theorem reads_list {texts : List (List Char)} {docs : List Document}
    (each : List.Forall₂ Reads texts docs) :
    Reads ('[' :: (joined texts ++ [']'])) (.list docs) where
  begins := ⟨'[', _, rfl, rfl, by decide⟩
  reads steps rest enough _ := by
    simp only [List.length_cons, List.length_append, List.length_nil] at enough
    rw [List.cons_append, List.append_assoc, List.singleton_append, value?, skipSpace_cons rfl]
    cases each with
    | nil => rfl
    | @cons text d texts docs first later =>
      have entries := (List.Forall₂.cons first later).imp fun _ _ => Reads.entry
      have inside := loop_joined entries (List.cons_ne_nil _ _)
        (show 2 * (joined (text :: texts)).length ≤ steps by omega) rest
      obtain ⟨c, cs, rfl, visible, noEnd⟩ := first.begins
      obtain ⟨behind, begins⟩ := exists_joined_eq_cons c cs texts
      rw [begins, List.cons_append] at inside ⊢
      simp only [skipSpace_cons visible]
      split
      next ends => exact absurd (List.cons.inj ends).1 noEnd
      next => rw [inside, Option.map_some]

theorem reads_record {texts : List (List Char)} {members : List (Option String × Document)}
    (each : List.Forall₂ ReadsMember texts members) :
    Reads ('\x7b' :: (joined texts ++ ['\x7d'])) (.record members) where
  begins := ⟨'\x7b', _, rfl, rfl, by decide⟩
  reads steps rest enough _ := by
    simp only [List.length_cons, List.length_append, List.length_nil] at enough
    rw [List.cons_append, List.append_assoc, List.singleton_append, value?, skipSpace_cons rfl]
    cases each with
    | nil => rfl
    | @cons text member texts members first later =>
      have entries := (List.Forall₂.cons first later).imp fun _ _ => ReadsMember.entry
      have inside := loop_joined entries (List.cons_ne_nil _ _)
        (show 2 * (joined (text :: texts)).length ≤ steps by omega) rest
      obtain ⟨name, value, rfl, -⟩ := first
      rw [toList_quote, List.cons_append] at inside ⊢
      obtain ⟨behind, begins⟩ := exists_joined_eq_cons '"' _ texts
      rw [begins, List.cons_append] at inside ⊢
      simp (disch := decide) only [skipSpace_cons]
      split
      next ends => exact absurd (List.cons.inj ends).1 (by decide)
      next => rw [inside, Option.map_some]

theorem read?_of_reads {s : String} {d : Document} (reads : Reads s.toList d) :
    read? s = some d := by
  have whole := reads.reads (2 * s.toList.length + 1) [] (by omega) (by rintro c ⟨⟩)
  rw [List.append_nil] at whole
  simp only [read?, whole]
  rfl

end Values

end Document

namespace Json

open Document (Reads ReadsMember joined)

def ReadsBack (j : Json) (d : Document) : Prop := Reads j.compact.toList d

theorem readsBack_null : ReadsBack .null .null := Document.reads_null

theorem readsBack_str (s : String) : ReadsBack (.str s) (.text (some s)) := by
  rw [ReadsBack, compact]
  exact Document.reads_quote s

theorem readsBack_nat (n : Nat) : ReadsBack (ofNat n) (.number (Document.numeralOf n)) := by
  have text : (ofNat n).compact.toList = Numeral.digits n := by
    rw [ofNat, compact, Numeral.toList_intText]
    simp
  rw [ReadsBack, text]
  exact Document.reads_digits n

theorem compactItems_eq_map (items : List Json) : compactItems items = items.map compact := by
  induction items with
  | nil => rfl
  | cons item rest ih => rw [compactItems, ih, List.map_cons]

def memberText (member : String × Json) : String := quote member.1 ++ ":" ++ member.2.compact

theorem compactMembers_eq_map (members : List (String × Json)) :
    compactMembers members = members.map memberText := by
  induction members with
  | nil => rfl
  | cons member rest ih => rw [compactMembers, ih, List.map_cons, memberText]

theorem readsBack_arr {items : List Json} {docs : List Document}
    (each : List.Forall₂ ReadsBack items docs) : ReadsBack (.arr items) (.list docs) := by
  have text : (arr items).compact.toList =
      '[' :: (joined (items.map fun item => item.compact.toList) ++ [']']) := by
    rw [compact, compactItems_eq_map, String.toList_append, String.toList_append,
      String.toList_intercalate, List.map_map]
    rfl
  rw [ReadsBack, text]
  exact Document.reads_list (List.forall₂_map_left_iff.mpr each)

theorem readsBack_obj {members : List (String × Json)} {docs : List (Option String × Document)}
    (each : List.Forall₂ (fun member doc => some member.1 = doc.1 ∧ ReadsBack member.2 doc.2)
      members docs) : ReadsBack (.obj members) (.record docs) := by
  have text : (obj members).compact.toList =
      '\x7b' :: (joined (members.map fun member => (memberText member).toList) ++ ['\x7d']) := by
    rw [compact, compactMembers_eq_map, String.toList_append, String.toList_append,
      String.toList_intercalate, List.map_map]
    rfl
  rw [ReadsBack, text]
  refine Document.reads_record (List.forall₂_map_left_iff.mpr (each.imp ?_))
  rintro ⟨name, value⟩ ⟨key, d⟩ ⟨named, reads⟩
  refine ⟨name, value.compact.toList, ?_, named.symm, reads⟩
  rw [memberText, String.toList_append, String.toList_append, List.append_assoc]
  rfl

theorem read?_compact {j : Json} {d : Document} (reads : ReadsBack j d) :
    Document.read? j.compact = some d :=
  Document.read?_of_reads reads

end Json
end Catalog
