import Catalog.Params
import Catalog.Source

set_option autoImplicit false

namespace Catalog

namespace Query

def relations (allowed : List String) (params : Params) : Except QueryError Flags :=
  match params.list? "include" with
  | none => .ok ∅
  | some list => (Flags.require allowed list).mapError .invalidInclude

def selection (profile : Profile) (params : Params) : Option Flags :=
  (params.list? "select").map (Flags.select profile.scalars)

-- An empty choice counts as none.
def projection (profile : Profile) (selection : Option Flags) (relations : Flags) : Option Flags :=
  if selection.isNone && relations.isEmpty then none
  else
    let chosen := (selection.getD profile.allScalars).union relations
    if chosen.isEmpty then none else some chosen

def order (params : Params) : Except QueryError (List OrderKey) :=
  match params.list? "order_by" with
  | none => .ok []
  | some list => OrderKey.readList list

def count? (params : Params) (key : String) : Option Nat :=
  (params.text? key).bind Numeral.count?

def range? (field : RangeField) (params : Params) : Except QueryError (Option Interval) :=
  match params.terms field.name with
  | [] => .ok none
  | terms => (field.interval terms).map some

def identifier (text : String) : Except QueryError Int :=
  match Numeral.integer? (Text.trim text) with
  | some id => .ok id
  | none => .error (.invalidIdentifier text)

def searchTerm? (params : Params) : Option String :=
  (params.text? "search").or (params.text? "q")

end Query

structure Draft where
  plan : Plan
  category : Option String
deriving DecidableEq

def Draft.ofParams (profile : Profile) (params : Params) : Except QueryError Draft := do
  let relations ← Query.relations profile.relations params
  let order ← Query.order params
  let plan : Plan :=
    { projection := Query.projection profile (Query.selection profile params) relations
      relations := if relations.isEmpty then none else some relations
      order := order
      offset := Query.count? params "offset"
      limit := Query.count? params "limit" }
  if profile.filterable then
    let priceRange ← Query.range? .price params
    let stockRange ← Query.range? .stock params
    return {
      plan := { plan with priceRange, stockRange, searchTerm := Query.searchTerm? params }
      category := params.text? "category" }
  else
    return { plan, category := none }

-- The lookup may have effects; it is asked at most once, and last.
def Plan.compileWith {m : Type → Type} [Monad m] (lookup : String → m LookupAnswer)
    (profile : Profile) (params : Params) : m (Except QueryError Plan) :=
  match Draft.ofParams profile params with
  | .error error => pure (.error error)
  | .ok draft =>
    match draft.category with
    | none => pure (.ok draft.plan)
    | some name => do
      let answer ← lookup name
      return answer.id.map fun id => { draft.plan with categoryId := some id }

def Plan.compile (lookup : Lookup) (profile : Profile) (params : Params) : Except QueryError Plan :=
  Plan.compileWith (m := Id) lookup profile params

end Catalog
