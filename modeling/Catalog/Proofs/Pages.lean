import Catalog.Store

set_option autoImplicit false

namespace Catalog

namespace Plan

variable {plan : Plan}

theorem page_unpaged {α : Type} (noOffset : plan.offset = none) (noLimit : plan.limit = none)
    (rows : List α) : plan.page rows = rows := by
  simp [page, noOffset, noLimit]

theorem arrange_unpaged (noOffset : plan.offset = none) (noLimit : plan.limit = none)
    (records : List Record) :
    plan.arrange records = (plan.sort records).map (·.project plan.projection) := by
  rw [arrange, page_unpaged noOffset noLimit]

end Plan

def Store.shoeShop : Store where
  categories := [⟨3, "Shoes"⟩]
  tags := [⟨7, "new"⟩, ⟨8, "sale"⟩]
  products := [
    { id := 1, name := "Red Runner", price := .ofNat 20, stock := some 5, categoryId := some 3,
      featured := true, createdAt := ⟨⟨2024, 1, 1⟩, 0, 0, 0, 0⟩, tagIds := [8] },
    { id := 2, name := "Red Laces", price := .ofNat 15,
      createdAt := ⟨⟨2024, 1, 2⟩, 0, 0, 0, 0⟩ }]
  swipers := [⟨2, "Winter", ""⟩, ⟨1, "Sale", "sale.png"⟩]

inductive PagesRead {α : Type} (page : Nat → List α) : Nat → List α → Prop
  | done {number : Nat} (empty : page number = []) : PagesRead page number []
  | more {number : Nat} {rest : List α} (nonempty : page number ≠ [])
      (later : PagesRead page (number + 1) rest) : PagesRead page number (page number ++ rest)

section Windows

variable {α : Type} {size : Nat}

def pageOf (rows : List α) (size number : Nat) : List α :=
  (rows.drop (number * size)).take size

theorem pageOf_eq_nil_iff (positive : 0 < size) {rows : List α} {number : Nat} :
    pageOf rows size number = [] ↔ rows.length ≤ number * size := by
  rw [pageOf, List.take_eq_nil_iff, List.drop_eq_nil_iff]
  omega

theorem pageOf_append_drop (rows : List α) (size number : Nat) :
    pageOf rows size number ++ rows.drop ((number + 1) * size) = rows.drop (number * size) := by
  have next : (number + 1) * size = number * size + size := Nat.succ_mul number size
  rw [pageOf, next, ← List.drop_drop, List.take_append_drop]

theorem PagesRead.eq_drop (positive : 0 < size) {rows result : List α} {number : Nat}
    (read : PagesRead (pageOf rows size) number result) : result = rows.drop (number * size) := by
  induction read with
  | done empty =>
    rw [pageOf_eq_nil_iff positive, ← List.drop_eq_nil_iff] at empty
    exact empty.symm
  | more nonempty later ih => rw [ih, pageOf_append_drop]

-- On the rows behind the page's start, of which each page that is not empty leaves fewer.
theorem pagesRead_drop (positive : 0 < size) (rows : List α) (number : Nat) :
    PagesRead (pageOf rows size) number (rows.drop (number * size)) := by
  by_cases inside : number * size < rows.length
  · have later := pagesRead_drop positive rows (number + 1)
    rw [← pageOf_append_drop]
    apply PagesRead.more _ later
    rw [ne_eq, pageOf_eq_nil_iff positive]
    omega
  · have empty : rows.length ≤ number * size := Nat.le_of_not_lt inside
    rw [List.drop_eq_nil_iff.mpr empty]
    exact .done ((pageOf_eq_nil_iff positive).mpr empty)
termination_by rows.length - number * size
decreasing_by
  rw [Nat.succ_mul]
  omega

end Windows

namespace Plan

variable {plan : Plan}

def unpaged (plan : Plan) : Plan := { plan with offset := none, limit := none }

def onPage (plan : Plan) (size number : Nat) : Plan :=
  { plan with offset := some (number * size), limit := some size }

def pageEnd (plan : Plan) (length : Nat) : Nat :=
  match plan.limit with
  | none => length
  | some limit => plan.offset.getD 0 + limit

theorem page_eq_extract {α : Type} (rows : List α) :
    plan.page rows = rows.extract (plan.offset.getD 0) (plan.pageEnd rows.length) := by
  rw [List.extract_eq_take_drop]
  unfold page pageEnd
  cases plan.limit with
  | none => exact (List.take_of_length_le (by simp)).symm
  | some limit => simp

theorem page_onPage {α : Type} (size number : Nat) (rows : List α) :
    (plan.onPage size number).page rows = pageOf rows size number := rfl

theorem map_page {α β : Type} (f : α → β) (rows : List α) :
    (plan.page rows).map f = plan.page (rows.map f) := by
  unfold page
  cases plan.limit with
  | none => exact List.map_drop
  | some limit => simp only [List.map_take, List.map_drop]

theorem arrange_eq_page (records : List Record) :
    plan.arrange records = plan.page (plan.unpaged.arrange records) := by
  have whole : plan.unpaged.arrange records = (plan.sort records).map (·.project plan.projection) :=
    arrange_unpaged rfl rfl records
  rw [whole, arrange, map_page]

structure TiledBy (size : Nat) (plan : Plan) (find : Plan → List Record) : Prop where
  slice : find plan =
    (find plan.unpaged).extract (plan.offset.getD 0) (plan.pageEnd (find plan.unpaged).length)
  pages : ∀ rows, PagesRead (fun number => find (plan.onPage size number)) 0 rows ↔
    rows = find plan.unpaged

theorem tiledBy_of_eq_page {size : Nat} (positive : 0 < size) {find : Plan → List Record}
    (paged : ∀ plan, find plan = plan.page (find plan.unpaged)) : plan.TiledBy size find := by
  have numbered : (fun number => find (plan.onPage size number)) =
      pageOf (find plan.unpaged) size := by
    funext number
    rw [paged, ← page_onPage]
    rfl
  refine ⟨(paged plan).trans (page_eq_extract _), ?_⟩
  intro rows
  rw [numbered]
  constructor
  · intro read
    simpa using read.eq_drop positive
  · rintro rfl
    simpa using pagesRead_drop positive (find plan.unpaged) 0

end Plan

namespace Store

theorem pages_tile_listing {size : Nat} (positive : 0 < size) (s : Store) (plan : Plan) :
    plan.TiledBy size s.findProducts ∧ plan.TiledBy size s.findSwipers := by
  constructor
  · apply Plan.tiledBy_of_eq_page positive
    intro plan
    exact Plan.arrange_eq_page _
  · apply Plan.tiledBy_of_eq_page positive
    intro plan
    exact Plan.arrange_eq_page _

theorem pages_tile_listing_shoeShop :
    0 < 1 ∧ ({ order := [⟨"detail", .descending⟩] } : Plan).TiledBy 1 shoeShop.findProducts ∧
      ({ order := [⟨"detail", .descending⟩] } : Plan).TiledBy 1 shoeShop.findSwipers :=
  ⟨by decide, pages_tile_listing (by decide) shoeShop _⟩

end Store
end Catalog
