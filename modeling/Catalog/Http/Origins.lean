import Catalog.Http.Message

set_option autoImplicit false

namespace Catalog

inductive OriginPolicy where
  | any
  | listed (origins : List String)
deriving DecidableEq, Repr

inductive OriginError where
  | wildcard
deriving DecidableEq, Repr

def OriginError.message : OriginError → String
  | .wildcard =>
    "Wildcard origin (`*`) cannot be passed to `AllowOrigin::list`. "
      ++ "Use `AllowOrigin::any()` instead"

namespace OriginPolicy

def isLegal (origin : String) : Bool := Header.isValue (Utf8.encode origin)

def ofConfigured (origins : List String) : Except OriginError OriginPolicy :=
  if origins.isEmpty then .ok .any
  else
    let legal := origins.filter isLegal
    if legal.contains "*" then .error .wildcard else .ok (.listed legal)

-- The request names its origin in bytes, and the answer has the entry of just these bytes.
def allowed? (policy : OriginPolicy) (origin : Option (List UInt8)) : Option String :=
  match policy with
  | .any => some "*"
  | .listed origins => origin.bind fun bytes => origins.find? (Utf8.encode · = bytes)

def varyHeader : String × String :=
  ("vary", "origin, access-control-request-method, access-control-request-headers")

def headers (policy : OriginPolicy) (request : Request) : List (String × String) :=
  varyHeader ::
    ((policy.allowed? (request.header? "origin")).map
      fun origin => ("access-control-allow-origin", origin)).toList

end OriginPolicy
end Catalog
