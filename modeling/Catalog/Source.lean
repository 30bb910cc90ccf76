import Catalog.Entity
import Catalog.Failure
import Catalog.Plan
import Catalog.Record

set_option autoImplicit false

namespace Catalog

abbrev LookupAnswer := Except StoreError (Option Category)

abbrev Lookup := String → LookupAnswer

namespace Lookup

def ofCategories (categories : List Category) : Lookup := fun name =>
  .ok (categories.find? (·.name = name))

def failing (error : StoreError) : Lookup := fun _ => .error error

def recorded (lookup : Lookup) (name : String) : StateM (List String) LookupAnswer := do
  modify (· ++ [name])
  return lookup name

end Lookup

def LookupAnswer.id : LookupAnswer → Except QueryError Int
  | .ok (some category) => .ok category.id
  | .ok none => .error (.notFound "category")
  | .error error => .error (.storeUnavailable error)

structure Source where
  category : Lookup
  products : Plan → Except StoreError (List Record)
  count : Plan → Except StoreError Nat
  product : Int → Flags → Except StoreError (Option Record)
  swipers : Plan → Except StoreError (List Record)
  swiper : Int → Option Flags → Except StoreError (Option Record)

def Source.failing (error : StoreError) : Source where
  category := Lookup.failing error
  products _ := .error error
  count _ := .error error
  product _ _ := .error error
  swipers _ := .error error
  swiper _ _ := .error error

end Catalog
