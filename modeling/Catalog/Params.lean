import Catalog.Text.Blank

set_option autoImplicit false

namespace Catalog

inductive ParamValue where
  | single (value : String)
  | many (first second : String) (rest : List String)
deriving DecidableEq, Repr

def ParamValue.values : ParamValue → List String
  | .single v => [v]
  | .many first second rest => first :: second :: rest

def ParamValue.push : ParamValue → String → ParamValue
  | .single first, v => .many first v []
  | .many first second rest, v => .many first second (rest ++ [v])

@[simp] theorem ParamValue.values_push (p : ParamValue) (v : String) :
    (p.push v).values = p.values ++ [v] := by
  cases p <;> simp [push, values]

structure Params where
  entries : List (String × ParamValue)
deriving DecidableEq, Repr

namespace Params

def empty : Params := ⟨[]⟩

def isEmpty (p : Params) : Bool := p.entries.isEmpty

def get? (p : Params) (key : String) : Option ParamValue :=
  p.entries.lookup key

def insertEntry (key value : String) : List (String × ParamValue) → List (String × ParamValue)
  | [] => [(key, .single value)]
  | (k, old) :: rest =>
    if k = key then (k, old.push value) :: rest else (k, old) :: insertEntry key value rest

def insert (p : Params) (key value : String) : Params :=
  ⟨insertEntry key value p.entries⟩

def ofPairs (pairs : List (String × String)) : Params :=
  pairs.foldl (fun p pair => p.insert pair.1 pair.2) empty

def values (p : Params) (key : String) : List String :=
  ((p.get? key).map ParamValue.values).getD []

def terms (p : Params) (key : String) : List String :=
  Text.nonBlank (p.values key)

def text? (p : Params) (key : String) : Option String :=
  (p.terms key).head?

def list? (p : Params) (key : String) : Option String :=
  let terms := p.terms key
  if terms.isEmpty then none else some (String.intercalate "," terms)

theorem lookup_insertEntry (key value k : String) (entries : List (String × ParamValue)) :
    (insertEntry key value entries).lookup k =
      if k = key then
        some (match entries.lookup key with
          | some old => old.push value
          | none => .single value)
      else entries.lookup k := by
  induction entries with
  | nil =>
    by_cases h : k = key
    · simp [insertEntry, h]
    · simp [insertEntry, List.lookup_cons, h, beq_eq_false_iff_ne.2 h]
  | cons e rest ih =>
    obtain ⟨k', old⟩ := e
    by_cases hk : k' = key
    · subst hk
      by_cases h : k = k'
      · simp [insertEntry, h]
      · simp [insertEntry, List.lookup_cons, h, beq_eq_false_iff_ne.2 h]
    · have hk' : (key == k') = false := beq_eq_false_iff_ne.2 fun h => hk h.symm
      by_cases h : k = k'
      · simp [insertEntry, h, hk]
      · simp [insertEntry, List.lookup_cons, hk, hk', beq_eq_false_iff_ne.2 h, ih]

theorem values_insert (p : Params) (key value k : String) :
    (p.insert key value).values k = if k = key then p.values k ++ [value] else p.values k := by
  by_cases h : k = key
  · subst h
    simp only [values, get?, insert, lookup_insertEntry, if_true]
    cases p.entries.lookup k <;> simp
    rfl
  · simp [values, get?, insert, lookup_insertEntry, h]

@[simp] theorem values_empty (k : String) : empty.values k = [] := rfl

theorem values_foldl_insert (pairs : List (String × String)) (p : Params) (k : String) :
    (pairs.foldl (fun p pair => p.insert pair.1 pair.2) p).values k =
      p.values k ++ (pairs.filter (·.1 = k)).map (·.2) := by
  induction pairs generalizing p with
  | nil => simp
  | cons pair rest ih =>
    rw [List.foldl_cons, ih, values_insert]
    by_cases h : pair.1 = k
    · simp [h]
    · simp [h, Ne.symm h]

theorem values_ofPairs (pairs : List (String × String)) (k : String) :
    (ofPairs pairs).values k = (pairs.filter (·.1 = k)).map (·.2) := by
  rw [ofPairs, values_foldl_insert, values_empty, List.nil_append]

end Params
end Catalog
