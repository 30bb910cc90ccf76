import Catalog.Failure
import Catalog.Plan
import Catalog.Record

set_option autoImplicit false

namespace Catalog

namespace Flags

def toJson (f : Flags) : Json :=
  .obj (f.entries.map fun (name, value) => (name, .bool value))

end Flags

def OrderKey.toJson (key : OrderKey) : Json :=
  .obj [("direction", .str key.direction.name), ("field", .str key.field)]

def Bound.toJson (b : Bound) : Json :=
  .obj [("inclusive", .bool b.inclusive), ("value", .ofFloat b.value)]

def Interval.toJson (i : Interval) : Json :=
  .objOf [("lowerBound", i.lower.map Bound.toJson), ("upperBound", i.upper.map Bound.toJson)]

def Plan.toJson (p : Plan) : Json :=
  .objOf [
    ("categoryId", p.categoryId.map .int),
    ("featuredOnly", if p.featuredOnly then some (.bool true) else none),
    ("limit", p.limit.map Json.ofNat),
    ("offset", p.offset.map Json.ofNat),
    ("order", if p.order.isEmpty then none else some (.arr (p.order.map OrderKey.toJson))),
    ("priceRange", p.priceRange.map Interval.toJson),
    ("projection", p.projection.map Flags.toJson),
    ("relations", p.relations.map Flags.toJson),
    ("searchTerm", p.searchTerm.map .str),
    ("stockRange", p.stockRange.map Interval.toJson)]

namespace Answer

def list (records : List Record) : Json :=
  .obj [("success", .bool true), ("count", .ofNat records.length),
    ("data", .arr (records.map Record.toJson))]

def single (record : Record) : Json :=
  .obj [("success", .bool true), ("data", record.toJson)]

def count (n : Nat) : Json :=
  .obj [("success", .bool true), ("count", .ofNat n)]

def error (e : RequestError) : Json :=
  .obj [("success", .bool false),
    ("error", .obj [("status", .ofNat e.status), ("type", .str e.kind),
      ("message", .str e.message)])]

end Answer
end Catalog
