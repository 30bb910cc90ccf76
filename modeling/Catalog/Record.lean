import Catalog.Flags
import Catalog.Json.Basic
import Catalog.OrderKey

set_option autoImplicit false

namespace Catalog

structure Record where
  members : List (String × Json)
deriving Inhabited

namespace Record

def get? (r : Record) (field : String) : Option Json := r.members.lookup field

def text? (r : Record) (field : String) : Option String :=
  match r.get? field with
  | some (.str text) => some text
  | _ => none

def fields (r : Record) : List String := r.members.map (·.1)

def toJson (r : Record) : Json := .obj r.members

def keep (r : Record) (flags : Flags) : Record :=
  ⟨r.members.filter fun member => flags.isSet member.1⟩

def project (r : Record) : Option Flags → Record
  | none => r
  | some flags => r.keep flags

end Record

namespace Json

-- A missing value is as null, and a list is as an object.
def kindRank : Option Json → Nat
  | none | some .null => 0
  | some (.bool _) => 1
  | some (.int _) | some (.float _) => 2
  | some (.str _) => 3
  | some (.arr _) | some (.obj _) => 4

-- Integers are placed among the floating-point numbers by the one nearest to them.
def numberPlace? : Json → Option Int
  | .int n => some (Binary64.ofInt n).totalPlace
  | .float x => some x.totalPlace
  | _ => none

def compareValues (a b : Option Json) : Ordering :=
  match a, b with
  | some (.bool x), some (.bool y) => compare x y
  | some (.str x), some (.str y) => compare x y
  | _, _ =>
    match a.bind numberPlace?, b.bind numberPlace? with
    | some x, some y => compare x y
    | _, _ => compare (kindRank a) (kindRank b)

end Json

namespace OrderKey

def compareRecords (key : OrderKey) (a b : Record) : Ordering :=
  let order := Json.compareValues (a.get? key.field) (b.get? key.field)
  match key.direction with
  | .ascending => order
  | .descending => order.swap

def compareBy : List OrderKey → Record → Record → Ordering
  | [], _, _ => .eq
  | key :: rest, a, b => (key.compareRecords a b).then (compareBy rest a b)

def notAfter (keys : List OrderKey) (a b : Record) : Bool :=
  (compareBy keys a b).isLE

end OrderKey
end Catalog
