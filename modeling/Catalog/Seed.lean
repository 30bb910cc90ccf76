import Catalog.Json.Reader
import Catalog.Store
import Catalog.Time.Reader

set_option autoImplicit false

namespace Catalog

open Document (required withDefault)

namespace Category

def fieldNames : List String := ["id", "name"]

def ofDocument? (d : Document) : Option Category := do
  match ← d.fields? fieldNames with
  | [id, name] => return ⟨← required Document.int64? id, ← required Document.text? name⟩
  | _ => none

end Category

namespace Tag

def fieldNames : List String := ["id", "name"]

def ofDocument? (d : Document) : Option Tag := do
  match ← d.fields? fieldNames with
  | [id, name] => return ⟨← required Document.int64? id, ← required Document.text? name⟩
  | _ => none

end Tag

namespace Swiper

def fieldNames : List String := ["id", "title", "filePath"]

def ofDocument? (d : Document) : Option Swiper := do
  match ← d.fields? fieldNames with
  | [id, title, filePath] =>
    return {
      id := ← required Document.int64? id
      title := ← required Document.text? title
      filePath := ← withDefault "" Document.text? filePath }
  | _ => none

end Swiper

def Instant.ofDocument? (d : Document) : Option Instant :=
  d.text?.bind Instant.read?

namespace Product

def fieldNames : List String :=
  ["id", "name", "price", "discountPercent", "description", "detail", "image1", "image2", "stock",
    "categoryId", "featured", "createdAt", "updatedAt", "tagIds"]

def ofDocument? (now : Instant) (d : Document) : Option Product := do
  match ← d.fields? fieldNames with
  | [id, name, price, discountPercent, description, detail, image1, image2, stock, categoryId,
      featured, createdAt, updatedAt, tagIds] =>
    return {
      id := ← required Document.int64? id
      name := ← required Document.text? name
      price := ← required Document.float? price
      discountPercent := ← withDefault .zero Document.float? discountPercent
      description := ← withDefault "" Document.text? description
      detail := ← withDefault none (Document.nullable? Document.text?) detail
      image1 := ← withDefault "" Document.text? image1
      image2 := ← withDefault "" Document.text? image2
      stock := ← withDefault none (Document.nullable? Document.int64?) stock
      categoryId := ← withDefault none (Document.nullable? Document.int64?) categoryId
      featured := ← withDefault false Document.bool? featured
      createdAt := ← withDefault now Instant.ofDocument? createdAt
      updatedAt := ← withDefault none (Document.nullable? Instant.ofDocument?) updatedAt
      tagIds := ← withDefault [] (Document.listOf? Document.int64?) tagIds }
  | _ => none

end Product

namespace Store

def fieldNames : List String := ["categories", "tags", "products", "swipers"]

def ofDocument? (now : Instant) (d : Document) : Option Store := do
  match ← d.fields? fieldNames with
  | [categories, tags, products, swipers] =>
    return {
      categories := ← withDefault [] (Document.listOf? Category.ofDocument?) categories
      tags := ← withDefault [] (Document.listOf? Tag.ofDocument?) tags
      products := ← withDefault [] (Document.listOf? (Product.ofDocument? now)) products
      swipers := ← withDefault [] (Document.listOf? Swiper.ofDocument?) swipers }
  | _ => none

def ofSeed? (now : Instant) (text : String) : Option Store :=
  (Document.read? text).bind (ofDocument? now)

end Store
end Catalog
