import Catalog.Command.Run
import Catalog.Proofs.CommaList
import Catalog.Proofs.ListRoutes

set_option autoImplicit false

namespace Catalog

namespace Target

end Target

namespace Command

inductive Listing : String → String → Profile → (Store → Plan → List Record) → Prop
  | product : Listing "product" "/api/v1/products" .product Store.findProducts
  | products : Listing "products" "/api/v1/products" .product Store.findProducts
  | swiper : Listing "swiper" "/api/v1/swipers" .swiper Store.findSwipers
  | swipers : Listing "swipers" "/api/v1/swipers" .swiper Store.findSwipers

structure Shows (profile : Profile) (s : Store) (find : Plan → List Record) (pairs : Service.Pairs)
    (output : Json) (response : Response) : Prop where
  refused : response.status ≠ 200 → response.body = .json output
  planned : response.status = 200 → ∃ plan, Service.plan (.ofStore s) profile pairs = .ok plan ∧
    response.body = .json (Answer.list (find plan)) ∧ output = plan.toJson

theorem Shows.addHeaders {profile : Profile} {s : Store} {find : Plan → List Record}
    {pairs : Service.Pairs} {output : Json} {response : Response}
    (shows : Shows profile s find pairs output response) (headers : List (String × String)) :
    Shows profile s find pairs output (response.addHeaders headers) :=
  ⟨shows.refused, shows.planned⟩

section Query

variable {q : String}

end Query

section Agreement

variable {entity path : String} {profile : Profile} {find : Store → Plan → List Record}

theorem Listing.ofName? (listing : Listing entity path profile find) :
    Profile.ofName? entity = some profile := by
  cases listing <;> decide

theorem Listing.legal (listing : Listing entity path profile find) :
    path.toList.all Target.isPathChar = true ∧ path.toList.head? = some '/' := by
  cases listing <;> decide +kernel

theorem Listing.answer (listing : Listing entity path profile find) (policy : OriginPolicy)
    (s : Store) {request : Request} (reads : request.method = "GET")
    (addressed : request.target.path = path) :
    Service.answer policy (.ofStore s) request =
      (Service.respond (Service.answerList profile (.ofStore s)
        (Percent.pairs request.target.query) fun plan => .ok (find s plan))).addHeaders
          (policy.headers request) := by
  have products : Route.ofPath? "/api/v1/products" = some .products := by decide +kernel
  have swipers : Route.ofPath? "/api/v1/swipers" = some .swipers := by decide +kernel
  have other : ¬ "GET" = "OPTIONS" := by decide
  rw [Service.answer, Service.dispatch, reads, addressed]
  cases listing with
  | product | products =>
    simp only [other, products, if_false, if_true]
    rfl
  | swiper | swipers =>
    simp only [other, swipers, if_false, if_true]
    rfl

end Agreement

end Command

end Catalog
