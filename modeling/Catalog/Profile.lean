import Catalog.Flags

set_option autoImplicit false

namespace Catalog

structure Profile where
  name : String
  scalars : List String
  relations : List String
  texts : List String
  -- whether ranges, category and search are honoured
  filterable : Bool
deriving DecidableEq, Repr

namespace Profile

def product : Profile where
  name := "product"
  scalars := ["id", "name", "price", "discountPercent", "description", "detail", "image1", "image2",
    "stock", "categoryId", "featured", "createdAt", "updatedAt"]
  relations := ["tags", "category"]
  texts := ["name", "description", "detail"]
  filterable := true

def swiper : Profile where
  name := "swiper"
  scalars := ["id", "title", "filePath"]
  relations := []
  texts := []
  filterable := false

def ofName? (name : String) : Option Profile :=
  if name = "product" ∨ name = "products" then some product
  else if name = "swiper" ∨ name = "swipers" then some swiper
  else none

def allScalars (p : Profile) : Flags := Flags.allSet p.scalars

end Profile
end Catalog
