import Catalog.Source

set_option autoImplicit false

namespace Catalog

def Plan.admits (plan : Plan) (p : Product) : Bool :=
  (!plan.featuredOnly || p.featured)
    && (plan.priceRange.all fun range => range.contains p.price)
    && (plan.stockRange.all fun range =>
      p.stock.any fun stock => range.contains (Binary64.ofInt stock))
    && (plan.categoryId.all fun id => p.categoryId = some id)

def Plan.matchesProduct (plan : Plan) (p : Product) : Bool :=
  plan.admits p && plan.searchMatches p.texts

def Plan.page {α : Type} (plan : Plan) (rows : List α) : List α :=
  let rest := rows.drop (plan.offset.getD 0)
  match plan.limit with
  | none => rest
  | some limit => rest.take limit

def Plan.sort (plan : Plan) (records : List Record) : List Record :=
  records.mergeSort (OrderKey.notAfter plan.order)

def Plan.arrange (plan : Plan) (records : List Record) : List Record :=
  (plan.page (plan.sort records)).map (·.project plan.projection)

structure Store where
  categories : List Category := []
  tags : List Tag := []
  products : List Product := []
  swipers : List Swiper := []
deriving DecidableEq

namespace Store

def empty : Store := {}

instance : Inhabited Store := ⟨empty⟩

def insertCategory (s : Store) (c : Category) : Store :=
  { s with categories := s.categories ++ [c] }

def insertTag (s : Store) (t : Tag) : Store :=
  { s with tags := s.tags ++ [t] }

def insertProduct (s : Store) (p : Product) : Store :=
  { s with products := s.products ++ [p] }

def insertSwiper (s : Store) (w : Swiper) : Store :=
  { s with swipers := s.swipers ++ [w] }

def lookup (s : Store) : Lookup := Lookup.ofCategories s.categories

def categoryOf (s : Store) (p : Product) : Option Category :=
  p.categoryId.bind fun id => s.categories.find? (·.id = id)

def tagsOf (s : Store) (p : Product) : List Tag :=
  s.tags.filter fun t => p.tagIds.contains t.id

def record (s : Store) (relations : Flags) (p : Product) : Record :=
  p.recordWith
    (if relations.isSet "category" then some (Json.ofOption Category.toJson (s.categoryOf p))
      else none)
    (if relations.isSet "tags" then some (.arr ((s.tagsOf p).map Tag.toJson)) else none)

def matching (s : Store) (plan : Plan) : List Product :=
  s.products.filter plan.matchesProduct

def findProducts (s : Store) (plan : Plan) : List Record :=
  plan.arrange ((s.matching plan).map (s.record (plan.relations.getD ∅)))

-- Pages do not matter to the count.
def countProducts (s : Store) (plan : Plan) : Nat :=
  (s.matching plan).length

def findProduct (s : Store) (id : Int) (relations : Flags) : Option Record :=
  (s.products.find? (·.id = id)).map (s.record relations)

def findSwipers (s : Store) (plan : Plan) : List Record :=
  plan.arrange (s.swipers.map Swiper.record)

def findSwiper (s : Store) (id : Int) (projection : Option Flags) : Option Record :=
  (s.swipers.find? (·.id = id)).map fun w => w.record.project projection

end Store

def Source.ofStore (s : Store) : Source where
  category := s.lookup
  products plan := .ok (s.findProducts plan)
  count plan := .ok (s.countProducts plan)
  product id relations := .ok (s.findProduct id relations)
  swipers plan := .ok (s.findSwipers plan)
  swiper id projection := .ok (s.findSwiper id projection)

end Catalog
