import Catalog.Answer
import Catalog.Http.Origins
import Catalog.Query
import Catalog.Source

set_option autoImplicit false

namespace Catalog

inductive Route where
  | health
  | products
  | featuredProducts
  | productCount
  | productSearch
  -- the identifier is still encoded
  | product (id : String)
  | swipers
  | swiper (id : String)
deriving DecidableEq, Repr

namespace Route

def ofSegments? : List String → Option Route
  | ["health"] => some .health
  | ["api", "v1", "products"] => some .products
  | ["api", "v1", "products", "featured"] => some .featuredProducts
  | ["api", "v1", "products", "count"] => some .productCount
  | ["api", "v1", "products", "search"] => some .productSearch
  | ["api", "v1", "products", id] => if id = "" then none else some (.product id)
  | ["api", "v1", "swipers"] => some .swipers
  | ["api", "v1", "swipers", id] => if id = "" then none else some (.swiper id)
  | _ => none

def ofPath? (path : String) : Option Route :=
  match Text.splitAt '/' path with
  | "" :: segments => ofSegments? segments
  | _ => none

end Route

def version : String := "0.1.0"

namespace Service

abbrev Pairs := List (String × String)

def plan (source : Source) (profile : Profile) (pairs : Pairs) : Except RequestError Plan :=
  (Plan.compile source.category profile (Params.ofPairs pairs)).mapError .query

def answerList (profile : Profile) (source : Source) (pairs : Pairs)
    (find : Plan → Except StoreError (List Record)) : Except RequestError Json := do
  let plan ← plan source profile pairs
  let records ← (find plan).mapError .store
  return Answer.list records

def listProducts (source : Source) (pairs : Pairs) : Except RequestError Json :=
  answerList .product source pairs source.products

def listFeatured (source : Source) (pairs : Pairs) : Except RequestError Json :=
  answerList .product source pairs fun plan => source.products plan.featured

def listSwipers (source : Source) (pairs : Pairs) : Except RequestError Json :=
  answerList .swiper source pairs source.swipers

def countProducts (source : Source) (pairs : Pairs) : Except RequestError Json := do
  let plan ← plan source .product pairs
  let n ← (source.count plan).mapError .store
  return Answer.count n

def found (resource : String) : Option Record → Except RequestError Json
  | some record => .ok (Answer.single record)
  | none => .error (.notFound resource)

-- A single product may be asked for with its category, but not with its tags.
def singleRelations : List String := ["category"]

def getProduct (source : Source) (id : String) (pairs : Pairs) : Except RequestError Json := do
  let id ← (Query.identifier id).mapError .query
  let relations ← (Query.relations singleRelations (Params.ofPairs pairs)).mapError .query
  found "product" (← (source.product id relations).mapError .store)

def getSwiper (source : Source) (id : String) (pairs : Pairs) : Except RequestError Json := do
  let id ← (Query.identifier id).mapError .query
  let selection := (Query.selection .swiper (Params.ofPairs pairs)).filter (!·.isEmpty)
  found "swiper" (← (source.swiper id selection).mapError .store)

def health : Json :=
  .obj [("status", .str "ok"), ("version", .str version)]

def respond : Except RequestError Json → Response
  | .ok answer => .ofJson 200 answer
  | .error error => .ofJson error.status (Answer.error error)

def withIdentifier (id : String) (answer : String → Except RequestError Json) : Response :=
  match Utf8.decode? (Percent.decode (Utf8.encode id)) with
  | some id => respond (answer id)
  | none => .ofText 400 "Invalid URL: Invalid UTF-8 in `id`"

def get (source : Source) (route : Route) (pairs : Pairs) : Response :=
  match route with
  | .health => .ofJson 200 health
  | .products => respond (listProducts source pairs)
  | .featuredProducts => respond (listFeatured source pairs)
  | .productCount => respond (countProducts source pairs)
  | .productSearch => respond (listProducts source pairs)
  | .product id => withIdentifier id (getProduct source · pairs)
  | .swipers => respond (listSwipers source pairs)
  | .swiper id => withIdentifier id (getSwiper source · pairs)

def allowHeader : String × String := ("allow", "GET,HEAD")

def preflight (route : Option Route) : Response :=
  (Response.bare 200).addHeaders
    ([("access-control-allow-methods", "*"), ("access-control-allow-headers", "*")]
      ++ if route.isSome then [allowHeader] else [])

def dispatch (source : Source) (request : Request) : Response :=
  let route := Route.ofPath? request.target.path
  if request.method = "OPTIONS" then preflight route
  else match route with
    | none => .bare 404
    | some route =>
      let pairs := Percent.pairs request.target.query
      if request.method = "GET" then get source route pairs
      else if request.method = "HEAD" then (get source route pairs).withoutBody
      else (Response.bare 405).addHeaders [allowHeader]

def answer (policy : OriginPolicy) (source : Source) (request : Request) : Response :=
  (dispatch source request).addHeaders (policy.headers request)

end Service
end Catalog
