import Catalog.Proofs.AsciiCase
import Catalog.Proofs.AttachedRelations

set_option autoImplicit false

namespace Catalog

def Product.Recased (p q : Product) : Prop :=
  ∃ name description detail, q = { p with name, description, detail } ∧
    name.toLower = p.name.toLower ∧ description.toLower = p.description.toLower ∧
    detail.map String.toLower = p.detail.map String.toLower

def Plan.Recased (plan other : Plan) : Prop :=
  ∃ searchTerm, other = { plan with searchTerm } ∧
    searchTerm.map String.toLower = plan.searchTerm.map String.toLower

def Store.Recased (s t : Store) : Prop :=
  ∃ products, t = { s with products } ∧ List.Forall₂ Product.Recased s.products products

theorem Plan.searchMatches_toLower (plan : Plan) (texts : List (Option String)) :
    ({ plan with searchTerm := plan.searchTerm.map String.toLower } : Plan).searchMatches
      (texts.map (Option.map String.toLower)) = plan.searchMatches texts := by
  unfold searchMatches
  cases plan.searchTerm with
  | none => rfl
  | some term =>
    simp only [Option.map_some, List.any_map, Function.comp_def, Option.any_map, Text.lower_toLower]

theorem Plan.Recased.searchMatches {plan other : Plan} (term : plan.Recased other)
    {texts others : List (Option String)}
    (same : others.map (Option.map String.toLower) = texts.map (Option.map String.toLower)) :
    other.searchMatches others = plan.searchMatches texts := by
  obtain ⟨searchTerm, rfl, letters⟩ := term
  rw [← plan.searchMatches_toLower, ← Plan.searchMatches_toLower, same, letters]

theorem Product.Recased.texts {p q : Product} (letters : p.Recased q) :
    q.texts.map (Option.map String.toLower) = p.texts.map (Option.map String.toLower) := by
  obtain ⟨name, description, detail, rfl, sameName, sameDescription, sameDetail⟩ := letters
  simp [Product.texts, Profile.product, Product.text?, sameName, sameDescription, sameDetail]

theorem Product.Recased.get?_recordWith {p q : Product} {field : String} (letters : p.Recased q)
    (kept : q.text? field = p.text? field) (category tags : Option Json) :
    (q.recordWith category tags).get? field = (p.recordWith category tags).get? field := by
  by_cases text : field ∈ Profile.product.texts
  · rw [get?_recordWith_of_text text, get?_recordWith_of_text text, kept]
  · obtain ⟨name, description, detail, rfl, -⟩ := letters
    simp only [Profile.product, List.mem_cons, List.not_mem_nil, or_false, not_or] at text
    obtain ⟨named, described, detailed⟩ := text
    simp [recordWith, Record.get?, List.lookup_append, List.lookup_cons,
      beq_eq_false_iff_ne.mpr named, beq_eq_false_iff_ne.mpr described,
      beq_eq_false_iff_ne.mpr detailed]

theorem Plan.Recased.matchesProduct {plan other : Plan} (term : plan.Recased other)
    {p q : Product} (letters : p.Recased q) : other.matchesProduct q = plan.matchesProduct p := by
  have searched := term.searchMatches letters.texts
  have admitted : other.admits q = plan.admits p := by
    obtain ⟨_, rfl, -⟩ := term
    obtain ⟨_, _, _, rfl, -⟩ := letters
    rfl
  rw [Plan.matchesProduct, Plan.matchesProduct, admitted, searched]

namespace Store

section Places

variable (s : Store) (plan : Plan)

def selected : List Nat :=
  (s.products.zipIdx.filter fun numbered => plan.matchesProduct numbered.1).map (·.2)

def recordAt (place : Nat) : Record :=
  (s.products[place]?.map (s.record (plan.relations.getD ∅))).getD default

def places : List Nat :=
  plan.page ((s.selected plan).mergeSort fun i j =>
    OrderKey.notAfter plan.order (s.recordAt plan i) (s.recordAt plan j))

theorem map_recordAt_selected : (s.selected plan).map (s.recordAt plan) =
    (s.matching plan).map (s.record (plan.relations.getD ∅)) := by
  have products : s.products.zipIdx.map Prod.fst = s.products := List.zipIdx_map_fst 0 _
  rw [selected, matching, List.map_map]
  nth_rewrite 2 [← products]
  rw [List.filter_map, List.map_map]
  apply List.map_congr_left
  rintro ⟨p, place⟩ member
  have found : s.products[place]? = some p :=
    List.mem_zipIdx_iff_getElem?.mp (List.mem_of_mem_filter member)
  simp [recordAt, found]

theorem findProducts_eq_map_places : s.findProducts plan =
    (s.places plan).map fun place => (s.recordAt plan place).project plan.projection := by
  have sorted : ((s.selected plan).mergeSort fun i j =>
      OrderKey.notAfter plan.order (s.recordAt plan i) (s.recordAt plan j)).map (s.recordAt plan) =
      plan.sort ((s.selected plan).map (s.recordAt plan)) :=
    List.map_mergeSort fun _ _ _ _ => rfl
  rw [findProducts, Plan.arrange, ← map_recordAt_selected, ← sorted, ← Plan.map_page, List.map_map]
  rfl

end Places

variable {s t : Store} {plan other : Plan}

-- Whatever the products at each place have in common decides on both of them.
theorem selectedFrom_congr {alike : Product → Product → Prop} {f g : Product → Bool}
    (same : ∀ p q, alike p q → g q = f p) {products others : List Product}
    (related : List.Forall₂ alike products others) (start : Nat) :
    ((others.zipIdx start).filter fun numbered => g numbered.1).map (·.2) =
      ((products.zipIdx start).filter fun numbered => f numbered.1).map (·.2) := by
  induction related generalizing start with
  | nil => rfl
  | @cons p q _ _ here _ ih =>
    have later := ih (start + 1)
    simp only [List.zipIdx_cons, List.filter_cons, same p q here]
    cases f p with
    | false => exact later
    | true => exact congrArg (start :: ·) later

theorem Recased.selected (letters : s.Recased t) (term : plan.Recased other) :
    t.selected other = s.selected plan := by
  obtain ⟨products, rfl, related⟩ := letters
  exact selectedFrom_congr (fun _ _ here => term.matchesProduct here) related 0

theorem get?_record_recased {products : List Product} {p q : Product} {field : String}
    (letters : p.Recased q) (kept : q.text? field = p.text? field) (relations : Flags) :
    (({ s with products } : Store).record relations q).get? field =
      (s.record relations p).get? field := by
  have own := letters.get?_recordWith kept
  obtain ⟨_, _, _, rfl, -⟩ := letters
  exact own _ _

theorem getElem?_recased {products others : List Product}
    (related : List.Forall₂ Product.Recased products others) (place : Nat) :
    products[place]? = none ∧ others[place]? = none ∨
      ∃ p q, products[place]? = some p ∧ others[place]? = some q ∧ p.Recased q := by
  induction related generalizing place with
  | nil => exact .inl ⟨rfl, rfl⟩
  | @cons p q _ _ here _ ih =>
    cases place with
    | zero => exact .inr ⟨p, q, rfl, rfl, here⟩
    | succ before => exact ih before

def KeepsText (s t : Store) (field : String) : Prop :=
  t.products.map (·.text? field) = s.products.map (·.text? field)

theorem get?_recordAt_recased (letters : s.Recased t) (term : plan.Recased other) {field : String}
    (kept : s.KeepsText t field) (place : Nat) :
    (t.recordAt other place).get? field = (s.recordAt plan place).get? field := by
  obtain ⟨products, rfl, related⟩ := letters
  obtain ⟨searchTerm, rfl, -⟩ := term
  have text := congrArg (·[place]?) kept
  simp only [List.getElem?_map] at text
  unfold recordAt
  rcases getElem?_recased related place with ⟨before, after⟩ | ⟨p, q, before, after, here⟩
  · rw [before, after]
    rfl
  · rw [before, after] at text ⊢
    exact get?_record_recased here (Option.some.inj text) _

theorem places_recased (letters : s.Recased t) (term : plan.Recased other)
    (kept : ∀ key ∈ plan.order, s.KeepsText t key.field) :
    t.places other = s.places plan := by
  have order : other.order = plan.order := by obtain ⟨_, rfl, -⟩ := term; rfl
  have page (rows : List Nat) : other.page rows = plan.page rows := by
    obtain ⟨_, rfl, -⟩ := term
    rfl
  have compared (i j : Nat) :
      OrderKey.notAfter plan.order (t.recordAt other i) (t.recordAt other j) =
        OrderKey.notAfter plan.order (s.recordAt plan i) (s.recordAt plan j) := by
    refine congrArg Ordering.isLE (OrderKey.compareBy_congr ?_)
    intro key member
    simp only [OrderKey.compareRecords, get?_recordAt_recased letters term (kept key member)]
  rw [places, places, page, order, letters.selected term]
  simp only [compared]

def ShowsPlaces (s : Store) (plan : Plan) : Prop :=
  (s.findProducts plan).map some = (s.places plan).map fun place =>
    s.products[place]?.map (s.row plan)

theorem perm_selected_places (s : Store) (noOffset : plan.offset = none)
    (noLimit : plan.limit = none) : (s.places plan).Perm (s.selected plan) := by
  rw [places, Plan.page_unpaged noOffset noLimit]
  exact List.mergeSort_perm _ _

theorem showsPlaces (s : Store) (plan : Plan) : s.ShowsPlaces plan := by
  rw [ShowsPlaces, findProducts_eq_map_places, List.map_map]
  apply List.map_congr_left
  intro place member
  have kept : place ∈ s.selected plan :=
    (List.mergeSort_perm _ _).mem_iff.mp ((plan.page_sublist _).mem member)
  obtain ⟨⟨p, _⟩, numbered, rfl⟩ := List.mem_map.mp kept
  have found := List.mem_zipIdx_iff_getElem?.mp (List.mem_of_mem_filter numbered)
  simp only [Function.comp_apply, recordAt, found, Option.map_some, Option.getD_some, row]

structure SearchedAlike (s : Store) (plan : Plan) (t : Store) (other : Plan) : Prop where
  selected : t.selected other = s.selected plan
  shown : s.ShowsPlaces plan ∧ t.ShowsPlaces other
  whole : plan.offset = none → plan.limit = none →
    (s.places plan).Perm (s.selected plan) ∧ (t.places other).Perm (s.selected plan)
  inOrder : (∀ key ∈ plan.order, s.KeepsText t key.field) → t.places other = s.places plan

theorem search_ignores_ascii_case (letters : s.Recased t) (term : plan.Recased other) :
    s.SearchedAlike plan t other := by
  have same := letters.selected term
  refine ⟨same, ⟨s.showsPlaces plan, t.showsPlaces other⟩, ?_, places_recased letters term⟩
  intro noOffset noLimit
  have page : other.offset = none ∧ other.limit = none := by
    obtain ⟨_, rfl, -⟩ := term
    exact ⟨noOffset, noLimit⟩
  exact ⟨s.perm_selected_places noOffset noLimit, same ▸ t.perm_selected_places page.1 page.2⟩

def logos : Product where
  id := 1
  name := "Big LOGOΣ"
  price := .ofNat 3
  detail := some "from İzmir"
  createdAt := ⟨⟨2024, 1, 1⟩, 0, 0, 0, 0⟩

def loudLogos : Product := { logos with name := "bIG logoΣ", detail := some "FROM İZMIR" }

def signShop : Store where
  products := [logos, { logos with id := 2, name := "Stage" }]

def loudShop : Store where
  products := [loudLogos, { logos with id := 2, name := "Stage" }]

def bySearch (term : String) : Plan := { searchTerm := some term, order := [⟨"id", .descending⟩] }

theorem search_ignores_ascii_case_signShop :
    (signShop.Recased loudShop ∧ (bySearch "goΣ").Recased (bySearch "GOΣ")) ∧
      signShop.selected (bySearch "goΣ") = [0] ∧
      signShop.SearchedAlike (bySearch "goΣ") loudShop (bySearch "GOΣ") := by
  have logo : logos.Recased loudLogos := by
    refine ⟨"bIG logoΣ", "", some "FROM İZMIR", rfl, ?_, rfl, congrArg some ?_⟩
    · exact Text.toLower_eq_iff.mpr (by decide +kernel)
    · exact Text.toLower_eq_iff.mpr (by decide +kernel)
  have stage (p : Product) : p.Recased p := ⟨_, _, _, rfl, rfl, rfl, rfl⟩
  have letters : signShop.Recased loudShop :=
    ⟨loudShop.products, rfl, .cons logo (.cons (stage _) .nil)⟩
  have term : (bySearch "goΣ").Recased (bySearch "GOΣ") :=
    ⟨some "GOΣ", rfl, congrArg some (Text.toLower_eq_iff.mpr (by decide +kernel))⟩
  exact ⟨⟨letters, term⟩, by decide +kernel, search_ignores_ascii_case letters term⟩

end Store
end Catalog
