import Catalog.Flags
import Catalog.Interval
import Catalog.OrderKey
import Catalog.Text.LowerCase

set_option autoImplicit false

namespace Catalog

structure Plan where
  projection : Option Flags := none
  relations : Option Flags := none
  order : List OrderKey := []
  offset : Option Nat := none
  limit : Option Nat := none
  priceRange : Option Interval := none
  stockRange : Option Interval := none
  categoryId : Option Int := none
  searchTerm : Option String := none
  featuredOnly : Bool := false
deriving DecidableEq

namespace Plan

def unfiltered : Plan := {}

instance : Inhabited Plan := ⟨unfiltered⟩

def isUnfiltered (p : Plan) : Bool := p == unfiltered

def featured (p : Plan) : Plan := { p with featuredOnly := true }

def includes (p : Plan) (relation : String) : Bool :=
  (p.relations.map (·.isSet relation)).getD false

def searchMatches (p : Plan) (texts : List (Option String)) : Bool :=
  match p.searchTerm with
  | none => true
  | some term =>
    texts.any fun text? => text?.any fun text => Text.contains (Text.lower text) (Text.lower term)

end Plan
end Catalog
