import Catalog.Proofs.Chronology
import Catalog.Proofs.NearestNumber

set_option autoImplicit false

namespace Catalog

inductive IntegerField where
  | id
  | stock
  | categoryId
deriving DecidableEq, Repr

namespace IntegerField

def name : IntegerField → String
  | .id => "id"
  | .stock => "stock"
  | .categoryId => "categoryId"

def of : IntegerField → Product → Option ℤ
  | .id, p => some p.id
  | .stock, p => p.stock
  | .categoryId, p => p.categoryId

def ofSwiper : IntegerField → Swiper → Option ℤ
  | .id, w => some w.id
  | .stock, _ | .categoryId, _ => none

end IntegerField

-- Unset ones first, then by size, as far as nearest numbers tell sizes apart.
structure Ascends (a b : Option ℤ) : Prop where
  unset : b = none → a = none
  size : ∀ m ∈ a, ∀ n ∈ b, m ≤ n ∨ Binary64.Blurs m n

def Direction.Keeps : Direction → Option ℤ → Option ℤ → Prop
  | .ascending, a, b => Ascends a b
  | .descending, a, b => Ascends b a

theorem Json.place_ofOption_some (n : ℤ) :
    place (some (Json.ofOption .int (some n))) =
      toLex (2, toLex ((Binary64.ofInt n).totalPlace, [])) :=
  rfl

theorem Json.place_ofOption_none :
    place (some (Json.ofOption .int none)) = toLex (0, toLex (0, [])) :=
  rfl

theorem ascends_of_place_le {a b : Option ℤ}
    (placed : Json.place (some (Json.ofOption .int a)) ≤ Json.place (some (Json.ofOption .int b))) :
    Ascends a b := by
  constructor
  · rintro rfl
    cases a with
    | none => rfl
    | some m =>
      rw [Json.place_ofOption_some, Json.place_ofOption_none, Prod.Lex.toLex_le_toLex] at placed
      simp at placed
  · rintro m rfl n rfl
    rw [Json.place_ofOption_some, Json.place_ofOption_some, Prod.Lex.toLex_le_toLex,
      Prod.Lex.toLex_le_toLex] at placed
    apply Binary64.le_or_blurs_of_place_le
    rw [← Binary64.totalPlace_ofInt_le_iff]
    simpa [le_iff_lt_or_eq] using placed

theorem OrderKey.keeps_of_notAfter {field : String} {direction : Direction}
    {later : List OrderKey} {a b : Record} {m n : Option ℤ}
    (first : Json.place (a.get? field) = Json.place (some (Json.ofOption .int m)))
    (second : Json.place (b.get? field) = Json.place (some (Json.ofOption .int n)))
    (ordered : notAfter (⟨field, direction⟩ :: later) a b = true) : direction.Keeps m n := by
  cases direction with
  | ascending =>
    have placed := place_le_of_notAfter ordered
    rw [first, second] at placed
    exact ascends_of_place_le placed
  | descending =>
    have placed := place_ge_of_notAfter ordered
    rw [first, second] at placed
    exact ascends_of_place_le placed

theorem IntegerField.place_swiper (field : IntegerField) (w : Swiper) :
    Json.place (w.record.get? field.name) =
      Json.place (some (Json.ofOption .int (field.ofSwiper w))) := by
  cases field <;> rfl

namespace Store

variable {s : Store} {plan : Plan}

theorem get?_integerField (relations : Flags) (field : IntegerField) (p : Product) :
    (s.record relations p).get? field.name = some (Json.ofOption .int (field.of p)) := by
  rw [get?_record_of_scalar (by cases field <;> decide)]
  cases field <;> rfl

structure ListsByInteger (s : Store) (plan : Plan) (field : IntegerField)
    (direction : Direction) : Prop where
  products : s.findProducts plan = (s.listed plan).map (s.row plan) ∧
    (s.listed plan).Pairwise fun p q => direction.Keeps (field.of p) (field.of q)
  swipers : s.findSwipers plan =
      (s.listedSwipers plan).map (·.record.project plan.projection) ∧
    (s.listedSwipers plan).Pairwise fun v w =>
      direction.Keeps (field.ofSwiper v) (field.ofSwiper w)

theorem integers_listed_in_order (s : Store) {field : IntegerField} {direction : Direction}
    {later : List OrderKey} (first : plan.order = ⟨field.name, direction⟩ :: later) :
    s.ListsByInteger plan field direction := by
  constructor
  · refine ⟨s.findProducts_eq_map_listed plan, (s.pairwise_listed plan).imp ?_⟩
    intro p q ordered
    rw [first] at ordered
    exact OrderKey.keeps_of_notAfter (congrArg Json.place (get?_integerField _ field p))
      (congrArg Json.place (get?_integerField _ field q)) ordered
  · refine ⟨s.findSwipers_eq_map_listed plan, (plan.pairwise_page_mergeSort _ _).imp ?_⟩
    intro v w ordered
    rw [first] at ordered
    exact OrderKey.keeps_of_notAfter (field.place_swiper v) (field.place_swiper w) ordered

theorem integers_listed_in_order_shoeShop :
    ({ order := [⟨"stock", .descending⟩, ⟨"id", .ascending⟩] } : Plan).order =
      ⟨IntegerField.stock.name, .descending⟩ :: [⟨"id", .ascending⟩] ∧
    shoeShop.ListsByInteger { order := [⟨"stock", .descending⟩, ⟨"id", .ascending⟩] } .stock
      .descending :=
  ⟨rfl, integers_listed_in_order shoeShop rfl⟩

def insertNumbered (s : Store) (id : ℤ) : Store :=
  s.insertProduct { id, name := "", price := .zero, createdAt := newYear 2024 0 }

theorem Reachable.insertNumbered (reachable : s.Reachable) (id : ℤ) :
    (s.insertNumbered id).Reachable := by
  have valid : (newYear 2024 0).Valid := ⟨by decide, by decide⟩
  exact reachable.insertProduct ⟨valid, nofun⟩

def numberedShop : Store :=
  (empty.insertNumbered 9007199254740993).insertNumbered 9007199254740992

def byId : Plan := { order := [⟨"id", .ascending⟩] }

theorem listed_numberedShop : numberedShop.listed byId = numberedShop.products :=
  listed_of_sorted rfl rfl (by decide +kernel) (by decide +kernel)

theorem listing_not_by_integer :
    numberedShop.Reachable ∧ byId.order = [⟨"id", .ascending⟩] ∧
      numberedShop.findProducts byId = (numberedShop.listed byId).map (numberedShop.row byId) ∧
      (numberedShop.listed byId).map (·.id) = [9007199254740993, 9007199254740992] ∧
      ¬ (numberedShop.listed byId).Pairwise fun p q => p.id ≤ q.id := by
  refine ⟨(Reachable.empty.insertNumbered _).insertNumbered _, rfl,
    findProducts_eq_map_listed _ _, ?_, ?_⟩
  · rw [listed_numberedShop]
    rfl
  · rw [listed_numberedShop]
    decide

end Store
end Catalog
