import Catalog.Numeric.Binary64

set_option autoImplicit false

namespace Catalog

inductive Json where
  | null
  | bool (value : Bool)
  | int (value : Int)
  | float (value : Binary64)
  | str (value : String)
  | arr (items : List Json)
  | obj (members : List (String × Json))
deriving Inhabited

namespace Json

def ofFloat (x : Binary64) : Json :=
  if x.isFinite then .float x else .null

def ofOption {α : Type} (toJson : α → Json) : Option α → Json
  | none => .null
  | some x => toJson x

def ofNat (n : Nat) : Json := .int n

def objOf (members : List (String × Option Json)) : Json :=
  .obj (members.filterMap fun (name, value?) => value?.map (name, ·))

-- The members of every object in the order of their names.
mutual

def canonical : Json → Json
  | .arr items => .arr (canonicalItems items)
  | .obj members => .obj ((canonicalMembers members).mergeSort fun a b => decide (a.1 ≤ b.1))
  | other => other

def canonicalItems : List Json → List Json
  | [] => []
  | item :: rest => canonical item :: canonicalItems rest

def canonicalMembers : List (String × Json) → List (String × Json)
  | [] => []
  | (name, value) :: rest => (name, canonical value) :: canonicalMembers rest

end

end Json
end Catalog
