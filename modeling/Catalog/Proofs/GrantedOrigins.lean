import Catalog.Http.Service
import Catalog.Proofs.Utf8Order

set_option autoImplicit false

namespace Catalog

namespace Header

def IsLegalByte (b : UInt8) : Prop := (0x20 ≤ b ∧ b ≠ 0x7F) ∨ b = 0x09

def IsLegal (bytes : List UInt8) : Prop := ∀ b ∈ bytes, IsLegalByte b

theorem isValue_iff (bytes : List UInt8) : isValue bytes = true ↔ IsLegal bytes := by
  simp [isValue, isValueByte, IsLegal, IsLegalByte]

def values (headers : List (String × String)) (name : String) : List String :=
  (headers.filter (·.1 = name)).map (·.2)

theorem values_append (headers others : List (String × String)) (name : String) :
    values (headers ++ others) name = values headers name ++ values others name := by
  rw [values, List.filter_append, List.map_append, values, values]

end Header

def originHeader : String := "access-control-allow-origin"

namespace Response

def granted (r : Response) : List String := Header.values r.headers originHeader

end Response

namespace Service

theorem granted_respond (result : Except RequestError Json) : (respond result).granted = [] := by
  cases result <;> rfl

theorem granted_withIdentifier (id : String) (answer : String → Except RequestError Json) :
    (withIdentifier id answer).granted = [] := by
  unfold withIdentifier
  split
  case h_1 id decoded => exact granted_respond (answer id)
  case h_2 => rfl

theorem granted_get (source : Source) (route : Route) (pairs : Pairs) :
    (get source route pairs).granted = [] := by
  cases route with
  | health => rfl
  | products | featuredProducts | productCount | productSearch | swipers =>
    exact granted_respond _
  | product id | swiper id => exact granted_withIdentifier id _

theorem granted_preflight (route : Option Route) : (preflight route).granted = [] := by
  cases route <;> rfl

-- No handler grants anything by itself.
theorem granted_dispatch (source : Source) (request : Request) :
    (dispatch source request).granted = [] := by
  unfold dispatch
  cases Route.ofPath? request.target.path with
  | none =>
    split_ifs
    · exact granted_preflight none
    all_goals rfl
  | some route =>
    -- A request for the head alone keeps the headers of the whole answer.
    split_ifs with asked got head
    · exact granted_preflight route
    · exact granted_get source route _
    · exact granted_get source route _
    · rfl

theorem granted_answer (policy : OriginPolicy) (source : Source) (request : Request) :
    (answer policy source request).granted =
      (policy.allowed? (request.header? "origin")).toList := by
  rw [answer, Response.granted, Response.addHeaders, Header.values_append]
  change (dispatch source request).granted ++ _ = _
  rw [granted_dispatch, List.nil_append, OriginPolicy.headers]
  cases policy.allowed? (request.header? "origin") <;> rfl

end Service

namespace OriginPolicy

variable {origins : List String} {origin : String}

def IsConfigured (origins : List String) (bytes : List UInt8) : Prop :=
  ∃ entry ∈ origins, Header.IsLegal (Utf8.encode entry) ∧ Utf8.encode entry = bytes

theorem mem_legal_iff :
    origin ∈ origins.filter isLegal ↔ IsConfigured origins (Utf8.encode origin) := by
  rw [List.mem_filter, isLegal, Header.isValue_iff]
  constructor
  · rintro ⟨member, legal⟩
    exact ⟨origin, member, legal, rfl⟩
  · rintro ⟨entry, member, legal, alike⟩
    rw [← Utf8.encode_injective alike]
    exact ⟨member, legal⟩

theorem IsConfigured.mem (configured : IsConfigured origins (Utf8.encode origin)) :
    origin ∈ origins :=
  (List.mem_filter.mp (mem_legal_iff.mpr configured)).1

theorem find?_encode_iff :
    origins.find? (Utf8.encode · = Utf8.encode origin) = some origin ↔ origin ∈ origins := by
  simp only [Utf8.encode_injective.eq_iff]
  constructor
  · exact List.mem_of_find?_eq_some
  · intro member
    cases found : origins.find? (· = origin) with
    | none => simpa using List.find?_eq_none.mp found origin member
    | some entry => simpa using List.find?_some found

theorem ofConfigured_eq_listed (named : origins ≠ []) (noWildcard : "*" ∉ origins) :
    ofConfigured origins = .ok (.listed (origins.filter isLegal)) := by
  have noLegalWildcard : "*" ∉ origins.filter isLegal := fun legal =>
    noWildcard (List.mem_filter.mp legal).1
  simp only [ofConfigured, List.isEmpty_iff, named, List.contains_iff_mem, noLegalWildcard,
    if_false]

structure Grants (origins : List String) (request : Request) (granted : List String) : Prop where
  everyone : granted = ["*"] ↔ origins = []
  echoed : origins ≠ [] → ∀ origin, granted = [origin] ↔
    request.header? "origin" = some (Utf8.encode origin) ∧
      IsConfigured origins (Utf8.encode origin)
  withheld : origins ≠ [] → (granted = [] ↔
    ∀ bytes, request.header? "origin" = some bytes → ¬IsConfigured origins bytes)
  closed : origins ≠ [] → (∀ entry ∈ origins, ¬Header.IsLegal (Utf8.encode entry)) → granted = []

theorem grants_any (request : Request) :
    Grants [] request ((any.allowed? (request.header? "origin")).toList) where
  everyone := ⟨fun _ => rfl, fun _ => rfl⟩
  echoed named := absurd rfl named
  withheld named := absurd rfl named
  closed named := absurd rfl named

theorem allowed?_listed (origins : List String) (asked : Option (List UInt8)) (origin : String) :
    (listed (origins.filter isLegal)).allowed? asked = some origin ↔
      asked = some (Utf8.encode origin) ∧ IsConfigured origins (Utf8.encode origin) := by
  rw [allowed?, Option.bind_eq_some_iff, ← mem_legal_iff, ← find?_encode_iff]
  constructor
  · rintro ⟨bytes, rfl, found⟩
    have alike : Utf8.encode origin = bytes := by simpa using List.find?_some found
    exact ⟨congrArg some alike.symm, alike ▸ found⟩
  · rintro ⟨rfl, found⟩
    exact ⟨_, rfl, found⟩

theorem grants_listed (named : origins ≠ []) (noWildcard : "*" ∉ origins) (request : Request) :
    Grants origins request
      ((listed (origins.filter isLegal)).allowed? (request.header? "origin")).toList := by
  have allows := allowed?_listed origins (request.header? "origin")
  generalize (listed (origins.filter isLegal)).allowed? _ = allowed at allows
  have withheld : allowed.toList = [] ↔
      ∀ bytes, request.header? "origin" = some bytes → ¬IsConfigured origins bytes := by
    rw [Option.toList_eq_nil_iff, Option.eq_none_iff_forall_ne_some]
    constructor
    · rintro nobody _ asked ⟨entry, member, legal, rfl⟩
      exact nobody entry ((allows entry).mpr ⟨asked, entry, member, legal, rfl⟩)
    · intro unlisted origin granted
      obtain ⟨asked, configured⟩ := (allows origin).mp granted
      exact unlisted _ asked configured
  exact {
    everyone := by
      refine iff_of_false (fun everyone => ?_) named
      exact noWildcard ((allows "*").mp (Option.toList_eq_singleton_iff.mp everyone)).2.mem
    echoed := fun _ origin => Option.toList_eq_singleton_iff.trans (allows origin)
    withheld := fun _ => withheld
    closed := by
      intro _ illegal
      refine withheld.mpr fun bytes _ => ?_
      rintro ⟨entry, member, legal, -⟩
      exact illegal entry member legal }

theorem origins_granted_as_configured (noWildcard : "*" ∉ origins) :
    ∃ policy, ofConfigured origins = .ok policy ∧ ∀ source request,
      Grants origins request (Service.answer policy source request).granted := by
  by_cases named : origins = []
  · subst named
    refine ⟨any, rfl, fun source request => ?_⟩
    rw [Service.granted_answer]
    exact grants_any request
  · refine ⟨_, ofConfigured_eq_listed named noWildcard, fun source request => ?_⟩
    rw [Service.granted_answer]
    exact grants_listed named noWildcard request

def shopOrigins : List String := ["https://shop.example", "https://shop.example\n"]

theorem origins_granted_as_configured_shop : "*" ∉ shopOrigins ∧
    ∃ policy, ofConfigured shopOrigins = .ok policy ∧ ∀ source request,
      Grants shopOrigins request (Service.answer policy source request).granted :=
  ⟨by decide +kernel, origins_granted_as_configured (by decide +kernel)⟩

-- A list with no entry that can be a header's value is not taken for an empty one.
example : ofConfigured ["https://shop.example\n"] = .ok (.listed []) := by rfl

end OriginPolicy
end Catalog
