import Catalog.Profile
import Catalog.Record
import Catalog.Time.Instant

set_option autoImplicit false

namespace Catalog

structure Category where
  id : Int
  name : String
deriving DecidableEq, Repr

structure Tag where
  id : Int
  name : String
deriving DecidableEq, Repr

structure Product where
  id : Int
  name : String
  price : Binary64
  discountPercent : Binary64 := .zero
  description : String := ""
  detail : Option String := none
  image1 : String := ""
  image2 : String := ""
  stock : Option Int := none
  categoryId : Option Int := none
  featured : Bool := false
  createdAt : Instant
  updatedAt : Option Instant := none
  tagIds : List Int := []
deriving DecidableEq

-- A banner of the home page.
structure Swiper where
  id : Int
  title : String
  filePath : String := ""
deriving DecidableEq, Repr

def Category.toJson (c : Category) : Json :=
  .obj [("id", .int c.id), ("name", .str c.name)]

def Tag.toJson (t : Tag) : Json :=
  .obj [("id", .int t.id), ("name", .str t.name)]

def Instant.toJson (t : Instant) : Json := .str t.text

namespace Product

def text? (p : Product) (field : String) : Option String :=
  if field = "name" then some p.name
  else if field = "description" then some p.description
  else if field = "detail" then p.detail
  else none

def texts (p : Product) : List (Option String) :=
  Profile.product.texts.map p.text?

-- The tags' identifiers are no field.
def recordWith (p : Product) (category tags : Option Json) : Record where
  members :=
    (category.map fun c => ("category", c)).toList
    ++ [("categoryId", Json.ofOption .int p.categoryId),
      ("createdAt", p.createdAt.toJson),
      ("description", .str p.description),
      ("detail", Json.ofOption .str p.detail),
      ("discountPercent", .ofFloat p.discountPercent),
      ("featured", .bool p.featured),
      ("id", .int p.id),
      ("image1", .str p.image1),
      ("image2", .str p.image2),
      ("name", .str p.name),
      ("price", .ofFloat p.price),
      ("stock", Json.ofOption .int p.stock)]
    ++ (tags.map fun t => ("tags", t)).toList
    ++ [("updatedAt", Json.ofOption Instant.toJson p.updatedAt)]

theorem get?_recordWith_of_text {field : String} (text : field ∈ Profile.product.texts)
    (p : Product) (category tags : Option Json) :
    (p.recordWith category tags).get? field = some (Json.ofOption .str (p.text? field)) := by
  simp only [Profile.product, List.mem_cons, List.not_mem_nil, or_false] at text
  rcases text with rfl | rfl | rfl <;> cases category <;>
    simp [recordWith, Record.get?, List.lookup_cons, text?, Json.ofOption]

end Product

def Record.texts (r : Record) : List (Option String) :=
  Profile.product.texts.map r.text?

def Swiper.record (s : Swiper) : Record where
  members := [("filePath", .str s.filePath), ("id", .int s.id), ("title", .str s.title)]

end Catalog
