import Catalog.Text.Blank

set_option autoImplicit false

namespace Catalog

structure Flags where
  entries : List (String × Bool)
  sorted : entries.Pairwise (·.1 < ·.1)
deriving DecidableEq

namespace Flags

def empty : Flags := ⟨[], .nil⟩

instance : EmptyCollection Flags := ⟨empty⟩
instance : Inhabited Flags := ⟨empty⟩

def isEmpty (f : Flags) : Bool := f.entries.isEmpty

def names (f : Flags) : List String := f.entries.map (·.1)

def get? (f : Flags) (name : String) : Option Bool := f.entries.lookup name

def isSet (f : Flags) (name : String) : Bool := (f.get? name).getD false

def insertEntry (name : String) (value : Bool) : List (String × Bool) → List (String × Bool)
  | [] => [(name, value)]
  | (k, v) :: rest =>
    if name < k then (name, value) :: (k, v) :: rest
    else if name = k then (name, value) :: rest
    else (k, v) :: insertEntry name value rest

theorem name_of_mem_insertEntry {name : String} {value : Bool} {entries : List (String × Bool)}
    {e : String × Bool} (h : e ∈ insertEntry name value entries) : e.1 = name ∨ e ∈ entries := by
  induction entries with
  | nil => simp_all [insertEntry]
  | cons x rest ih =>
    unfold insertEntry at h
    split at h
    · rcases List.mem_cons.1 h with rfl | h
      · exact .inl rfl
      · exact .inr h
    · split at h
      · rcases List.mem_cons.1 h with rfl | h
        · exact .inl rfl
        · exact .inr (List.mem_cons_of_mem _ h)
      · rcases List.mem_cons.1 h with rfl | h
        · exact .inr List.mem_cons_self
        · exact (ih h).imp_right (List.mem_cons_of_mem _)

theorem sorted_insertEntry {name : String} {value : Bool} {entries : List (String × Bool)}
    (h : entries.Pairwise (·.1 < ·.1)) : (insertEntry name value entries).Pairwise (·.1 < ·.1) := by
  induction entries with
  | nil => simp [insertEntry]
  | cons x rest ih =>
    obtain ⟨k, v⟩ := x
    have hrest := List.pairwise_cons.1 h
    unfold insertEntry
    split
    · rename_i hlt
      refine List.pairwise_cons.2 ⟨fun e he => ?_, h⟩
      rcases List.mem_cons.1 he with rfl | he
      · exact hlt
      · exact String.lt_trans hlt (hrest.1 e he)
    · rename_i hlt
      split
      · rename_i heq
        subst heq
        exact List.pairwise_cons.2 ⟨hrest.1, hrest.2⟩
      · rename_i hne
        refine List.pairwise_cons.2 ⟨fun e he => ?_, ih hrest.2⟩
        rcases name_of_mem_insertEntry he with he | he
        · exact he ▸ Std.lt_of_le_of_ne (Std.not_lt.1 hlt) (fun h => hne h.symm)
        · exact hrest.1 e he

def insert (f : Flags) (name : String) (value : Bool) : Flags :=
  ⟨insertEntry name value f.entries, sorted_insertEntry f.sorted⟩

theorem lookup_insertEntry (name : String) (value : Bool) (k : String)
    (entries : List (String × Bool)) :
    (insertEntry name value entries).lookup k =
      if k = name then some value else entries.lookup k := by
  induction entries with
  | nil =>
    by_cases h : k = name
    · simp [insertEntry, h]
    · simp [insertEntry, List.lookup_cons, h, beq_eq_false_iff_ne.2 h]
  | cons e rest ih =>
    obtain ⟨k', v⟩ := e
    unfold insertEntry
    split
    · by_cases h : k = name
      · simp [h]
      · simp [List.lookup_cons, h, beq_eq_false_iff_ne.2 h]
    · split
      · rename_i heq
        subst heq
        by_cases h : k = name
        · simp [h]
        · simp [List.lookup_cons, h, beq_eq_false_iff_ne.2 h]
      · rename_i hne
        by_cases h : k = k'
        · subst h
          simp [Ne.symm hne]
        · simp [List.lookup_cons, beq_eq_false_iff_ne.2 h, ih]

theorem get?_insert (f : Flags) (name : String) (value : Bool) (k : String) :
    (f.insert name value).get? k = if k = name then some value else f.get? k :=
  lookup_insertEntry name value k f.entries

@[simp] theorem get?_empty (k : String) : (∅ : Flags).get? k = none := rfl

def ofList (entries : List (String × Bool)) : Flags :=
  entries.foldl (fun f e => f.insert e.1 e.2) empty

def allSet (names : List String) : Flags :=
  ofList (names.map fun name => (name, true))

theorem get?_foldl_insert_true (names : List String) (f : Flags) (k : String) :
    ((names.map fun name => (name, true)).foldl (fun f e => f.insert e.1 e.2) f).get? k =
      if k ∈ names then some true else f.get? k := by
  induction names generalizing f with
  | nil => simp
  | cons name rest ih =>
    rw [List.map_cons, List.foldl_cons, ih, get?_insert]
    by_cases h : k = name <;> by_cases h' : k ∈ rest <;> simp [h, h']

theorem get?_allSet (names : List String) (k : String) :
    (allSet names).get? k = if k ∈ names then some true else none :=
  get?_foldl_insert_true names ∅ k

def union (f g : Flags) : Flags :=
  g.entries.foldl (fun f e => f.insert e.1 e.2) f

def select (allowed : List String) (list : String) : Flags :=
  allSet ((Text.members list).filter (allowed.contains ·))

def require (allowed : List String) (list : String) : Except String Flags :=
  match (Text.members list).find? (!allowed.contains ·) with
  | some name => .error name
  | none => .ok (allSet (Text.members list))

end Flags
end Catalog
