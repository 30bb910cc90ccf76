import Catalog.Proofs.ListRoutes

set_option autoImplicit false

namespace Catalog

namespace Source

structure AlwaysFails (source : Source) : Prop where
  category : ∀ name, ∃ error, source.category name = .error error
  products : ∀ plan, ∃ error, source.products plan = .error error
  count : ∀ plan, ∃ error, source.count plan = .error error
  product : ∀ id relations, ∃ error, source.product id relations = .error error
  swipers : ∀ plan, ∃ error, source.swipers plan = .error error
  swiper : ∀ id selection, ∃ error, source.swiper id selection = .error error

theorem alwaysFails_failing (error : StoreError) : (failing error).AlwaysFails where
  category _ := ⟨error, rfl⟩
  products _ := ⟨error, rfl⟩
  count _ := ⟨error, rfl⟩
  product _ _ := ⟨error, rfl⟩
  swipers _ := ⟨error, rfl⟩
  swiper _ _ := ⟨error, rfl⟩

end Source

def Draft.settle (lookup : Lookup) (draft : Draft) : Except QueryError Plan :=
  match draft.category with
  | none => .ok draft.plan
  | some name => (lookup name).id.map fun id => { draft.plan with categoryId := some id }

theorem Plan.compile_eq_settle (lookup : Lookup) (profile : Profile) (params : Params) :
    compile lookup profile params = Draft.ofParams profile params >>= (·.settle lookup) := by
  unfold compile compileWith Draft.settle
  cases Draft.ofParams profile params with
  | error error => rfl
  | ok draft => cases named : draft.category <;> simp [named, bind, Except.bind, pure]

theorem Store.settle_category (s : Store) (draft : Draft) :
    draft.settle s.lookup = .error (.notFound "category") ∨
      ∃ plan, draft.settle s.lookup = .ok plan := by
  unfold Draft.settle
  cases draft.category with
  | none => exact .inr ⟨_, rfl⟩
  | some name =>
    simp only [lookup, Lookup.ofCategories]
    cases s.categories.find? (·.name = name) with
    | none => exact .inl rfl
    | some category => exact .inr ⟨_, rfl⟩

theorem Source.AlwaysFails.settle_category {source : Source} (fails : source.AlwaysFails)
    (draft : Draft) : draft.settle source.category = .ok draft.plan ∨
      ∃ error, draft.settle source.category = .error (.storeUnavailable error) := by
  unfold Draft.settle
  cases draft.category with
  | none => exact .inl rfl
  | some name =>
    obtain ⟨error, failed⟩ := fails.category name
    simp only [failed]
    exact .inr ⟨error, rfl⟩

namespace Json

def member? (name : String) : Json → Option Json
  | .obj members => members.lookup name
  | _ => none

end Json

def Route.Form : Route → Json → Prop
  | .health, _ => False
  | .products, value | .featuredProducts, value | .productSearch, value | .swipers, value =>
    ∃ records, value = Answer.list records
  | .productCount, value => ∃ n, value = Answer.count n
  | .product _, value | .swiper _, value => ∃ record, value = Answer.single record

namespace Service

section Steps

variable {α : Type} {form : Json → Prop} {check : Except RequestError α}
  {f g : α → Except RequestError Json}

def Answerable (form : Json → Prop) (result : Except RequestError Json) : Prop :=
  (∃ value, result = .ok value ∧ form value) ∨ ∃ error, result = .error error ∧ error.status = 404

def Unavailable (result : Except RequestError α) : Prop :=
  ∃ error, result = .error error ∧ error.status = 500 ∧ error.kind = "StoreUnavailable"

-- Either neither source is asked, or both are.
inductive Separated (form : Json → Prop) :
    Except RequestError Json → Except RequestError Json → Prop
  | refused (error : RequestError) (malformed : error.status = 400) :
    Separated form (.error error) (.error error)
  | asked {healthy broken : Except RequestError Json} (answerable : Answerable form healthy)
    (unavailable : Unavailable broken) : Separated form healthy broken

theorem Separated.bind_check (malformed : ∀ error, check = .error error → error.status = 400)
    (later : ∀ a, check = .ok a → Separated form (f a) (g a)) :
    Separated form (check >>= f) (check >>= g) := by
  cases checked : check with
  | error error => exact .refused error (malformed error checked)
  | ok a => exact later a checked

theorem Unavailable.bind (unavailable : Unavailable check) : Unavailable (check >>= f) := by
  obtain ⟨error, rfl, down⟩ := unavailable
  exact ⟨error, rfl, down⟩

theorem unavailable_of_store {answer : Except StoreError α}
    (failed : ∃ error, answer = .error error) : Unavailable (answer.mapError .store) := by
  obtain ⟨error, rfl⟩ := failed
  exact ⟨.store error, rfl, rfl, rfl⟩

theorem status_mapError_query {answer : Except QueryError α} {error : RequestError}
    (malformed : ∀ cause, answer = .error cause → cause.status = 400)
    (refused : answer.mapError .query = .error error) : error.status = 400 := by
  obtain ⟨cause, failed, rfl⟩ := Steps.mapError_eq_error.mp refused
  exact malformed cause failed

end Steps

section Handlers

variable {s : Store} {failing : Source} {form : Json → Prop} {profile : Profile} {pairs : Pairs}
  {f g : Plan → Except RequestError Json}

theorem plan_eq_settle (source : Source) (profile : Profile) (pairs : Pairs) :
    plan source profile pairs =
      (Draft.ofParams profile (Params.ofPairs pairs)).mapError .query >>= fun draft =>
        (draft.settle source.category).mapError .query := by
  rw [plan, Plan.compile_eq_settle]
  cases Draft.ofParams profile (Params.ofPairs pairs) <;> rfl

theorem answerable_settle (draft : Draft) (answers : ∀ plan, Answerable form (f plan)) :
    Answerable form ((draft.settle s.lookup).mapError .query >>= f) := by
  rcases s.settle_category draft with missing | ⟨plan, settled⟩
  · rw [missing]
    exact .inr ⟨.query (.notFound "category"), rfl, rfl⟩
  · rw [settled]
    exact answers plan

theorem unavailable_settle (fails : failing.AlwaysFails) (draft : Draft)
    (down : ∀ plan, Unavailable (g plan)) :
    Unavailable ((draft.settle failing.category).mapError .query >>= g) := by
  rcases fails.settle_category draft with unnamed | ⟨error, failed⟩
  · rw [unnamed]
    exact down draft.plan
  · rw [failed]
    exact ⟨.query (.storeUnavailable error), rfl, rfl, rfl⟩

theorem separated_plan (fails : failing.AlwaysFails) (answers : ∀ plan, Answerable form (f plan))
    (down : ∀ plan, Unavailable (g plan)) :
    Separated form (plan (.ofStore s) profile pairs >>= f) (plan failing profile pairs >>= g) := by
  rw [plan_eq_settle, plan_eq_settle, bind_assoc, bind_assoc]
  apply Separated.bind_check
  · intro error
    exact status_mapError_query fun _ => Draft.status_ofParams
  · intro draft _
    exact .asked (answerable_settle draft answers) (unavailable_settle fails draft down)

theorem separated_list (fails : failing.AlwaysFails) (find : Plan → List Record)
    {failingFind : Plan → Except StoreError (List Record)}
    (failed : ∀ plan, ∃ error, failingFind plan = .error error) :
    Separated (fun value => ∃ records, value = Answer.list records)
      (answerList profile (.ofStore s) pairs fun plan => .ok (find plan))
      (answerList profile failing pairs failingFind) :=
  separated_plan fails (fun plan => .inl ⟨Answer.list (find plan), rfl, find plan, rfl⟩)
    fun plan => (unavailable_of_store (failed plan)).bind

theorem separated_count (fails : failing.AlwaysFails) :
    Separated Route.productCount.Form
      (countProducts (.ofStore s) pairs) (countProducts failing pairs) :=
  separated_plan fails
    (fun plan => .inl ⟨Answer.count (s.countProducts plan), rfl, s.countProducts plan, rfl⟩)
    fun plan => (unavailable_of_store (fails.count plan)).bind

theorem answerable_found (resource : String) (answer : Option Record) :
    Answerable (fun value => ∃ record, value = Answer.single record) (found resource answer) := by
  cases answer with
  | none => exact .inr ⟨.notFound resource, rfl, rfl⟩
  | some record => exact .inl ⟨Answer.single record, rfl, record, rfl⟩

theorem separated_product (fails : failing.AlwaysFails) (segment id : String) :
    Separated (Route.product segment).Form
      (getProduct (.ofStore s) id pairs) (getProduct failing id pairs) := by
  apply Separated.bind_check
  · intro error
    exact status_mapError_query fun _ => Query.status_identifier
  intro id _
  apply Separated.bind_check
  · intro error
    exact status_mapError_query fun _ => Query.status_relations
  intro relations _
  exact .asked (answerable_found "product" (s.findProduct id relations))
    (unavailable_of_store (fails.product id relations)).bind

theorem separated_swiper (fails : failing.AlwaysFails) (segment id : String) :
    Separated (Route.swiper segment).Form
      (getSwiper (.ofStore s) id pairs) (getSwiper failing id pairs) := by
  apply Separated.bind_check
  · intro error
    exact status_mapError_query fun _ => Query.status_identifier
  intro id _
  exact .asked (answerable_found "swiper" (s.findSwiper id _))
    (unavailable_of_store (fails.swiper id _)).bind

end Handlers

end Service

namespace Response

def member? (r : Response) (name : String) : Option Json :=
  match r.body with
  | .json value => value.member? name
  | _ => none

-- What a body says of its response is so: the status of a failure is the response's own, and the
-- count beside a list is the list's length.
structure Enveloped (route : Route) (r : Response) : Prop where
  failed : r.status ≠ 200 ↔
    (∃ error, r.member? "error" = some error) ∨ ∃ message, r.body = .text message
  status : ∀ error, r.member? "error" = some error →
    error.member? "status" = some (.ofNat r.status)
  counted : ∀ items, r.member? "data" = some (.arr items) →
    r.member? "count" = some (.ofNat items.length)
  listed : route.listed?.isSome → r.status = 200 → ∃ items, r.member? "data" = some (.arr items)

variable {route : Route} {r : Response}

theorem Enveloped.addHeaders (enveloped : r.Enveloped route) (headers : List (String × String)) :
    (r.addHeaders headers).Enveloped route :=
  ⟨enveloped.failed, enveloped.status, enveloped.counted, enveloped.listed⟩

theorem enveloped_ofText {status : Nat} (failed : status ≠ 200) (message : String) :
    (ofText status message).Enveloped route where
  failed := iff_of_true failed (.inr ⟨message, rfl⟩)
  status := by
    intro error never
    cases never
  counted := by
    intro items never
    cases never
  listed := fun _ answered => absurd answered failed

theorem enveloped_error (route : Route) (error : RequestError) :
    (Service.respond (.error error)).Enveloped route where
  failed := iff_of_true error.status_ne_ok (.inl ⟨_, rfl⟩)
  status := by
    intro envelope told
    cases told
    rfl
  counted := by
    intro items never
    cases never
  listed := fun _ answered => absurd answered error.status_ne_ok

theorem enveloped_ofJson {value : Json} (noError : value.member? "error" = none)
    (counted : ∀ items, value.member? "data" = some (.arr items) →
      value.member? "count" = some (.ofNat items.length))
    (listed : route.listed?.isSome → ∃ items, value.member? "data" = some (.arr items)) :
    (ofJson 200 value).Enveloped route where
  failed := by
    refine iff_of_false (fun failed => failed rfl) ?_
    rintro (⟨error, told⟩ | ⟨message, never⟩)
    · cases noError.symm.trans told
    · cases never
  status := by
    intro error told
    cases noError.symm.trans told
  counted := counted
  listed lists _ := listed lists

theorem enveloped_unlisted {value : Json} (noError : value.member? "error" = none)
    (noItems : ∀ items, value.member? "data" ≠ some (.arr items))
    (unlisted : route.listed? = none) : (ofJson 200 value).Enveloped route := by
  apply enveloped_ofJson noError
  · intro items listed
    exact absurd listed (noItems items)
  · intro lists
    rw [unlisted] at lists
    cases lists

theorem enveloped_of_form {value : Json} (form : route.Form value) :
    (ofJson 200 value).Enveloped route := by
  cases route with
  | health => cases form
  | products | featuredProducts | productSearch | swipers =>
    obtain ⟨records, rfl⟩ := form
    apply enveloped_ofJson rfl
    · intro items listed
      cases listed
      exact congrArg some (congrArg Json.ofNat (List.length_map _).symm)
    · exact fun _ => ⟨_, rfl⟩
  | productCount =>
    obtain ⟨n, rfl⟩ := form
    exact enveloped_unlisted rfl (fun items never => by cases never) rfl
  | product id | swiper id =>
    obtain ⟨record, rfl⟩ := form
    exact enveloped_unlisted rfl (fun items never => by cases never) rfl

end Response

namespace Service

section Responses

variable {route : Route} {healthy broken : Response} {s : Store} {failing : Source}

structure SeparatesFailure (route : Route) (healthy broken : Response) : Prop where
  status : healthy.status ∈ [200, 400, 404]
  refused : healthy.status = 400 → broken = healthy
  unavailable : healthy.status = 200 ∨ healthy.status = 404 →
    broken.status = 500 ∧ ∃ error, broken.member? "error" = some error ∧
      error.member? "type" = some (.str "StoreUnavailable")
  enveloped : healthy.Enveloped route ∧ broken.Enveloped route

theorem SeparatesFailure.addHeaders (separates : SeparatesFailure route healthy broken)
    (headers : List (String × String)) :
    SeparatesFailure route (healthy.addHeaders headers) (broken.addHeaders headers) where
  status := separates.status
  refused malformed := by rw [separates.refused malformed]
  unavailable := separates.unavailable
  enveloped := separates.enveloped.imp (·.addHeaders headers) (·.addHeaders headers)

theorem separatesFailure_refused (malformed : healthy.status = 400)
    (enveloped : healthy.Enveloped route) : SeparatesFailure route healthy healthy where
  status := by simp [malformed]
  refused _ := rfl
  unavailable := by simp [malformed]
  enveloped := ⟨enveloped, enveloped⟩

theorem separatesFailure_unavailable {failure : RequestError} (down : failure.status = 500)
    (kind : failure.kind = "StoreUnavailable")
    (settled : healthy.status = 200 ∨ healthy.status = 404) (enveloped : healthy.Enveloped route) :
    SeparatesFailure route healthy (respond (.error failure)) where
  status := by rcases settled with found | missing <;> simp [*]
  refused := by rcases settled with found | missing <;> simp [*]
  unavailable _ := ⟨down, _, rfl, congrArg (fun kind => some (Json.str kind)) kind⟩
  enveloped := ⟨enveloped, Response.enveloped_error route failure⟩

theorem separatesFailure_respond {x y : Except RequestError Json}
    (separated : Separated route.Form x y) : SeparatesFailure route (respond x) (respond y) := by
  cases separated with
  | refused error malformed =>
    exact separatesFailure_refused malformed (Response.enveloped_error route error)
  | asked answerable unavailable =>
    obtain ⟨failure, rfl, down, kind⟩ := unavailable
    rcases answerable with ⟨value, rfl, form⟩ | ⟨error, rfl, missing⟩
    · exact separatesFailure_unavailable down kind (.inl rfl) (Response.enveloped_of_form form)
    · exact separatesFailure_unavailable down kind (.inr missing)
        (Response.enveloped_error route error)

theorem separatesFailure_withIdentifier {x y : String → Except RequestError Json}
    (separated : ∀ id, Separated route.Form (x id) (y id)) (segment : String) :
    SeparatesFailure route (withIdentifier segment x) (withIdentifier segment y) := by
  unfold withIdentifier
  cases Utf8.decode? (Percent.decode (Utf8.encode segment)) with
  | some id => exact separatesFailure_respond (separated id)
  | none => exact separatesFailure_refused rfl (Response.enveloped_ofText (by decide) _)

theorem separatesFailure_get (fails : failing.AlwaysFails) (stored : route ≠ .health)
    (pairs : Pairs) :
    SeparatesFailure route (get (.ofStore s) route pairs) (get failing route pairs) := by
  cases route with
  | health => exact absurd rfl stored
  | products | productSearch =>
    exact separatesFailure_respond (separated_list fails s.findProducts fails.products)
  | featuredProducts =>
    exact separatesFailure_respond (separated_list fails (fun plan => s.findProducts plan.featured)
      fun plan => fails.products plan.featured)
  | productCount => exact separatesFailure_respond (separated_count fails)
  | swipers => exact separatesFailure_respond (separated_list fails s.findSwipers fails.swipers)
  | product segment =>
    exact separatesFailure_withIdentifier (separated_product fails segment) segment
  | swiper segment =>
    exact separatesFailure_withIdentifier (separated_swiper fails segment) segment

theorem refusals_precede_failures (policy : OriginPolicy) (s : Store) {failing : Source}
    {request : Request} {route : Route} (fails : failing.AlwaysFails)
    (reads : request.method = "GET") (routed : Route.ofPath? request.target.path = some route)
    (stored : route ≠ .health) :
    SeparatesFailure route (answer policy (.ofStore s) request)
      (answer policy failing request) := by
  have dispatched (source : Source) :
      dispatch source request = get source route (Percent.pairs request.target.query) := by
    simp [dispatch, routed, reads]
  rw [answer, answer, dispatched, dispatched]
  exact (separatesFailure_get fails stored _).addHeaders _

def missingHats : Request where
  method := "GET"
  target := ⟨"/api/v1/products/featured", "category=Hats&price=gte_10"⟩
  headers := [("Origin", Utf8.encode "http://shop.example")]

theorem refusals_precede_failures_missingHats :
    (Source.failing .lockPoisoned).AlwaysFails ∧ missingHats.method = "GET" ∧
      Route.ofPath? missingHats.target.path = some .featuredProducts ∧
      Route.featuredProducts ≠ .health ∧
      SeparatesFailure .featuredProducts (answer .any (.ofStore .shoeShop) missingHats)
        (answer .any (.failing .lockPoisoned) missingHats) :=
  have fails := Source.alwaysFails_failing .lockPoisoned
  have routed : Route.ofPath? missingHats.target.path = some .featuredProducts := by decide +kernel
  ⟨fails, rfl, routed, by decide,
    refusals_precede_failures .any .shoeShop fails rfl routed (by decide)⟩

end Responses

end Service
end Catalog
