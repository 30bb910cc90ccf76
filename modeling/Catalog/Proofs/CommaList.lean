import Catalog.Text.Blank
import Mathlib.Data.List.TakeWhile

set_option autoImplicit false

namespace Catalog.Text

def IsTrimmed (cs : List Char) : Prop :=
  (∀ c ∈ cs.head?, isBlank c = false) ∧ ∀ c ∈ cs.getLast?, isBlank c = false

theorem head_dropBlanks (cs : List Char) : ∀ c ∈ (dropBlanks cs).head?, isBlank c = false := by
  intro c first
  have skipped := List.head?_dropWhile_not isBlank cs
  simp only [dropBlanks, Option.mem_def] at first
  simpa [first] using skipped

theorem dropBlanks_of_head {cs : List Char} (head : ∀ c ∈ cs.head?, isBlank c = false) :
    dropBlanks cs = cs := by
  cases cs with
  | nil => rfl
  | cons c rest => simp [dropBlanks, head c (by simp)]

theorem isTrimmed_trimChars (cs : List Char) : IsTrimmed (trimChars cs) := by
  constructor
  · intro c first
    simp only [trimChars, List.head?_reverse, Option.mem_def] at first
    -- what is left of the reversed text still ends where the text begins
    have kept : dropBlanks (dropBlanks cs).reverse <:+ (dropBlanks cs).reverse :=
      List.dropWhile_suffix isBlank
    obtain ⟨dropped, split⟩ := kept
    apply head_dropBlanks cs c
    rw [Option.mem_def, ← List.getLast?_reverse, ← split, List.getLast?_append, first]
    rfl
  · intro c last
    apply head_dropBlanks (dropBlanks cs).reverse c
    simpa [trimChars] using last

theorem trimChars_of_isTrimmed {cs : List Char} (trimmed : IsTrimmed cs) : trimChars cs = cs := by
  rw [trimChars, dropBlanks_of_head trimmed.1, dropBlanks_of_head, List.reverse_reverse]
  simpa using trimmed.2

theorem exists_append_trimChars (cs : List Char) :
    ∃ before after, cs = before ++ trimChars cs ++ after ∧
      (∀ c ∈ before, isBlank c = true) ∧ ∀ c ∈ after, isBlank c = true := by
  let rest := dropBlanks cs
  refine ⟨cs.takeWhile isBlank, (rest.reverse.takeWhile isBlank).reverse, ?_, ?_, ?_⟩
  · have back : trimChars cs ++ (rest.reverse.takeWhile isBlank).reverse = rest := by
      rw [trimChars, ← List.reverse_append, dropBlanks, List.takeWhile_append_dropWhile,
        List.reverse_reverse]
    rw [List.append_assoc, back]
    exact List.takeWhile_append_dropWhile.symm
  · intro c member
    exact List.mem_takeWhile_imp member
  · intro c member
    exact List.mem_takeWhile_imp (List.mem_reverse.mp member)

@[simp] theorem toList_trim (s : String) : (trim s).toList = trimChars s.toList := by
  simp [trim]

theorem trim_trim (s : String) : trim (trim s) = trim s := by
  rw [trim, toList_trim, trimChars_of_isTrimmed (isTrimmed_trimChars _), trim]

theorem trim_of_visible {s : String} (visible : ∀ c ∈ s.toList, isBlank c = false) :
    trim s = s := by
  have trimmed : IsTrimmed s.toList :=
    ⟨fun c first => visible c (List.mem_of_head? first),
      fun c last => visible c (List.mem_of_getLast? last)⟩
  rw [trim, trimChars_of_isTrimmed trimmed, String.ofList_toList]

theorem mem_nonBlank {t : String} {values : List String} :
    t ∈ nonBlank values ↔ (∃ v ∈ values, trim v = t) ∧ t ≠ "" := by
  simp [nonBlank]

theorem nonBlank_append (xs ys : List String) :
    nonBlank (xs ++ ys) = nonBlank xs ++ nonBlank ys := by
  simp [nonBlank]

theorem trim_of_mem_nonBlank {t : String} {values : List String} (member : t ∈ nonBlank values) :
    trim t = t := by
  obtain ⟨⟨v, -, rfl⟩, -⟩ := mem_nonBlank.mp member
  exact trim_trim v

theorem not_mem_of_mem_splitOn {separator : Char} {cs piece : List Char}
    (member : piece ∈ cs.splitOn separator) : separator ∉ piece := by
  induction cs generalizing piece with
  | nil =>
    rw [List.splitOn_nil, List.mem_singleton] at member
    simp [member]
  | cons c rest ih =>
    rw [List.splitOn_cons_eq_if_modifyHead] at member
    split at member
    next =>
      rcases List.mem_cons.mp member with rfl | later
      · simp
      · exact ih later
    next other =>
      obtain ⟨first, others, parts⟩ :=
        List.exists_cons_of_ne_nil (List.splitOn_ne_nil separator rest)
      rw [parts, List.modifyHead_cons] at member
      rcases List.mem_cons.mp member with rfl | later
      · have clean : separator ∉ first := ih (by simp [parts])
        have distinct : separator ≠ c := by
          intro same
          simp [same] at other
        simp [clean, distinct]
      · exact ih (by simp [parts, later])

theorem not_comma_mem_of_mem_members {t list : String} (member : t ∈ members list) :
    ',' ∉ t.toList := by
  obtain ⟨⟨piece, split, rfl⟩, -⟩ := mem_nonBlank.mp member
  simp only [splitAt, List.mem_map] at split
  obtain ⟨cs, inside, rfl⟩ := split
  obtain ⟨before, after, whole, -, -⟩ := exists_append_trimChars cs
  have clean := not_mem_of_mem_splitOn inside
  intro comma
  apply clean
  rw [whole]
  simp only [toList_trim, String.toList_ofList] at comma
  simp [comma]

theorem trimChars_append_blank {before : List Char} (cs : List Char)
    (blank : ∀ c ∈ before, isBlank c = true) : trimChars (before ++ cs) = trimChars cs := by
  simp only [trimChars, dropBlanks, List.dropWhile_append_of_pos blank]

theorem trimChars_blank_append {after : List Char} (cs : List Char)
    (blank : ∀ c ∈ after, isBlank c = true) : trimChars (cs ++ after) = trimChars cs := by
  have kept : dropBlanks (cs ++ after) =
      if (dropBlanks cs).isEmpty then [] else dropBlanks cs ++ after := by
    rw [dropBlanks, List.dropWhile_append, List.dropWhile_eq_nil_iff.mpr blank]
    rfl
  rw [trimChars, kept]
  split
  next empty => simp [trimChars, List.isEmpty_iff.mp empty]
  next =>
    have reversed : ∀ c ∈ after.reverse, isBlank c = true := by simpa using blank
    rw [List.reverse_append, trimChars, dropBlanks, List.dropWhile_append_of_pos reversed]
    rfl

theorem trim_eq_empty_iff {s : String} : trim s = "" ↔ ∀ c ∈ s.toList, isBlank c = true := by
  constructor
  · intro nothing
    obtain ⟨before, after, whole, left, right⟩ := exists_append_trimChars s.toList
    have bare : trimChars s.toList = [] := by rw [← toList_trim, nothing]; rfl
    rw [bare, List.append_nil] at whole
    intro c member
    rw [whole] at member
    exact (List.mem_append.mp member).elim (left c) (right c)
  · intro blank
    have whole := trimChars_append_blank [] blank
    rw [List.append_nil] at whole
    rw [trim, whole]
    rfl

def membersOf (cs : List Char) : List String := nonBlank ((cs.splitOn ',').map String.ofList)

theorem members_eq_membersOf (list : String) : members list = membersOf list.toList := rfl

theorem membersOf_append_comma (xs ys : List Char) :
    membersOf (xs ++ ',' :: ys) = membersOf xs ++ membersOf ys := by
  simp only [membersOf, List.splitOn_append_cons_self, List.map_append, nonBlank_append]

theorem membersOf_of_no_comma {cs : List Char} (clean : ',' ∉ cs) :
    membersOf cs = nonBlank [String.ofList cs] := by
  simp [membersOf, List.splitOn_eq_singleton clean]

theorem no_comma_of_blank {cs : List Char} (blank : ∀ c ∈ cs, isBlank c = true) : ',' ∉ cs := by
  intro comma
  have wrong := blank _ comma
  revert wrong
  decide

theorem membersOf_append_blank {before : List Char} (cs : List Char)
    (blank : ∀ c ∈ before, isBlank c = true) : membersOf (before ++ cs) = membersOf cs := by
  have clean := no_comma_of_blank blank
  have single {xs : List Char} (inside : ',' ∉ xs) : membersOf (before ++ xs) = membersOf xs := by
    rw [membersOf_of_no_comma inside, membersOf_of_no_comma (by simp [clean, inside])]
    simp [nonBlank, trim, trimChars_append_blank xs blank]
  by_cases comma : ',' ∈ cs
  · obtain ⟨first, rest, rfl, inside⟩ := List.eq_append_cons_of_mem comma
    rw [← List.append_assoc, membersOf_append_comma, membersOf_append_comma, single inside]
  · exact single comma

theorem membersOf_blank_append {after : List Char} (cs : List Char)
    (blank : ∀ c ∈ after, isBlank c = true) : membersOf (cs ++ after) = membersOf cs := by
  have clean := no_comma_of_blank blank
  have single {xs : List Char} (inside : ',' ∉ xs) : membersOf (xs ++ after) = membersOf xs := by
    rw [membersOf_of_no_comma inside, membersOf_of_no_comma (by simp [clean, inside])]
    simp [nonBlank, trim, trimChars_blank_append xs blank]
  by_cases comma : ',' ∈ cs
  · -- only the piece behind the last comma is next to the blanks
    obtain ⟨last, rest, reversed, inside⟩ :=
      List.eq_append_cons_of_mem (List.mem_reverse.mpr comma)
    have split : cs = rest.reverse ++ ',' :: last.reverse := by
      simpa using congrArg List.reverse reversed
    rw [split, List.append_assoc, List.cons_append, membersOf_append_comma, membersOf_append_comma,
      single (by simpa using inside)]
  · exact single comma

theorem members_trim (s : String) : members (trim s) = members s := by
  obtain ⟨before, after, whole, left, right⟩ := exists_append_trimChars s.toList
  have padded := membersOf_blank_append (before ++ trimChars s.toList) right
  rw [membersOf_append_blank _ left, ← whole] at padded
  rw [members_eq_membersOf, members_eq_membersOf, toList_trim, padded]

theorem members_append_comma (s t : String) : members (s ++ "," ++ t) = members s ++ members t := by
  simp [members_eq_membersOf, String.toList_append, membersOf_append_comma]

@[simp] theorem members_empty : members "" = [] := by decide

theorem members_intercalate (values : List String) :
    members (String.intercalate "," values) = values.flatMap members := by
  induction values with
  | nil => simp
  | cons first rest ih =>
    cases rest with
    | nil => simp
    | cons second others =>
      rw [String.intercalate_cons_cons, members_append_comma, ih]
      simp

theorem mem_toList_intercalate {separator v : String} {values : List String} (member : v ∈ values) :
    ∀ c ∈ v.toList, c ∈ (String.intercalate separator values).toList := by
  intro c inside
  induction values with
  | nil => cases member
  | cons first rest ih =>
    cases rest with
    | nil =>
      rw [List.mem_singleton] at member
      simpa [← member] using inside
    | cons second others =>
      rw [String.intercalate_cons_cons, String.toList_append, String.toList_append]
      rcases List.mem_cons.mp member with rfl | later
      · exact List.mem_append_left _ (List.mem_append_left _ inside)
      · exact List.mem_append_right _ (ih later)

theorem trim_intercalate_ne_empty {separator v : String} {values : List String}
    (member : v ∈ values) (visible : trim v ≠ "") :
    trim (String.intercalate separator values) ≠ "" := by
  intro nothing
  apply visible
  rw [trim_eq_empty_iff] at nothing ⊢
  intro c inside
  exact nothing c (mem_toList_intercalate member c inside)

theorem flatMap_members_nonBlank (values : List String) :
    (nonBlank values).flatMap members = values.flatMap members := by
  induction values with
  | nil => rfl
  | cons v rest ih =>
    rw [← List.singleton_append, nonBlank_append, List.flatMap_append, ih, List.flatMap_append]
    have first : (nonBlank [v]).flatMap members = [v].flatMap members := by
      by_cases blank : trim v = ""
      · simp [nonBlank, blank, ← members_trim v]
      · simp [nonBlank, blank, members_trim]
    rw [first]

end Catalog.Text
