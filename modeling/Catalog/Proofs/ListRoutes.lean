import Catalog.Http.Service
import Catalog.Proofs.RecordShape

set_option autoImplicit false

namespace Catalog

def Route.listed? : Route → Option Profile
  | .products | .featuredProducts | .productSearch => some .product
  | .swipers => some .swiper
  | _ => none

section Shape

variable {s : Store} {profile : Profile} {pairs : List (String × String)} {plan : Plan}

namespace Store

end Store

end Shape

theorem RequestError.status_ne_ok (error : RequestError) : error.status ≠ 200 := by
  rcases error with error | resource | error
  · cases error <;> simp [status, QueryError.status]
  · simp [status]
  · simp [status]

namespace Service

variable {profile : Profile} {pairs : Pairs}

theorem plan_of_compile {source : Source} {compiledPlan : Plan}
    (compiled : Plan.compile source.category profile (Params.ofPairs pairs) = .ok compiledPlan) :
    plan source profile pairs = .ok compiledPlan :=
  congrArg (Except.mapError RequestError.query) compiled

theorem answerList_ok {source : Source} {find : Plan → Except StoreError (List Record)}
    {answer : Json} (answered : answerList profile source pairs find = .ok answer) :
    ∃ plan records, Plan.compile source.category profile (Params.ofPairs pairs) = .ok plan ∧
      find plan = .ok records ∧ answer = Answer.list records := by
  simp only [answerList, Steps.bind_eq_ok] at answered
  obtain ⟨plan, planned, records, found, same⟩ := answered
  refine ⟨plan, records, Steps.mapError_eq_ok.mp planned, Steps.mapError_eq_ok.mp found, ?_⟩
  exact (Except.ok.inj same).symm

theorem answerList_of_compile {plan : Plan} (source : Source)
    (find : Plan → List Record)
    (compiled : Plan.compile source.category profile (Params.ofPairs pairs) = .ok plan) :
    answerList profile source pairs (fun plan => .ok (find plan)) =
      .ok (Answer.list (find plan)) := by
  rw [answerList, plan_of_compile compiled]
  rfl

theorem get_products {s : Store} {plan : Plan}
    (compiled : Plan.compile s.lookup .product (Params.ofPairs pairs) = .ok plan) :
    get (.ofStore s) .products pairs = .ofJson 200 (Answer.list (s.findProducts plan)) :=
  congrArg respond (answerList_of_compile (.ofStore s) s.findProducts compiled)

theorem get_featuredProducts {s : Store} {plan : Plan}
    (compiled : Plan.compile s.lookup .product (Params.ofPairs pairs) = .ok plan) :
    get (.ofStore s) .featuredProducts pairs =
      .ofJson 200 (Answer.list (s.findProducts plan.featured)) :=
  congrArg respond
    (answerList_of_compile (.ofStore s) (fun plan => s.findProducts plan.featured) compiled)

theorem ok_of_respond {answer : Except RequestError Json}
    (answered : (respond answer).status = 200) :
    ∃ value, answer = .ok value ∧ (respond answer).body = .json value := by
  cases answer with
  | ok value => exact ⟨value, rfl, rfl⟩
  | error error => exact absurd answered error.status_ne_ok

def shelfQuery : Pairs :=
  [("select", "stock, secret,name"), ("include", "tags"), ("order_by", "price.desc")]

end Service
end Catalog
