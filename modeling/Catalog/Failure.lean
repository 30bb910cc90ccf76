import Catalog.Numeric.Numeral

set_option autoImplicit false

namespace Catalog

inductive StoreError where
  | lockPoisoned
  | seedRead (path message : String)
  | seedParse (path message : String)
  | encoding (message : String)
deriving DecidableEq, Repr

def StoreError.message : StoreError → String
  | .lockPoisoned => "store lock poisoned"
  | .seedRead path message => "failed to read seed " ++ path ++ ": " ++ message
  | .seedParse path message => "invalid seed " ++ path ++ ": " ++ message
  | .encoding message => "record encoding failed: " ++ message

inductive QueryError where
  | invalidInclude (name : String)
  | tooManyRangeTerms (field : String) (count : Nat)
  | conflictingRangeTerms (field first second : String)
  | invalidRangeValue (field term : String)
  | invalidOrder (term : String)
  | invalidIdentifier (text : String)
  | notFound (resource : String)
  | storeUnavailable (cause : StoreError)
deriving DecidableEq, Repr

namespace QueryError

def message : QueryError → String
  | .invalidInclude name => "include field is not correct: " ++ name
  | .tooManyRangeTerms field count =>
    "same parameter cannot be more than twice: " ++ field ++ " has " ++ Numeral.text count
      ++ " terms"
  | .conflictingRangeTerms field first second =>
    "conflicting range terms for " ++ field ++ ": " ++ first ++ " and " ++ second
  | .invalidRangeValue field term => "invalid range value for " ++ field ++ ": " ++ term
  | .invalidOrder term => "invalid order_by term: " ++ term
  | .invalidIdentifier text => "invalid identifier: " ++ text
  | .notFound resource => resource ++ " not found"
  | .storeUnavailable cause => "store unavailable: " ++ cause.message

def kind : QueryError → String
  | .invalidInclude _ => "InvalidInclude"
  | .tooManyRangeTerms .. => "TooManyRangeTerms"
  | .conflictingRangeTerms .. => "ConflictingRangeTerms"
  | .invalidRangeValue .. => "InvalidRangeValue"
  | .invalidOrder _ => "InvalidOrder"
  | .invalidIdentifier _ => "InvalidIdentifier"
  | .notFound _ => "ResourceNotFound"
  | .storeUnavailable _ => "StoreUnavailable"

def status : QueryError → Nat
  | .notFound _ => 404
  | .storeUnavailable _ => 500
  | _ => 400

end QueryError

inductive RequestError where
  | query (error : QueryError)
  | notFound (resource : String)
  | store (error : StoreError)
deriving DecidableEq, Repr

namespace RequestError

def message : RequestError → String
  | .query error => error.message
  | .notFound resource => resource ++ " not found"
  | .store error => error.message

def kind : RequestError → String
  | .query error => error.kind
  | .notFound _ => "ResourceNotFound"
  | .store _ => "StoreUnavailable"

def status : RequestError → Nat
  | .query error => error.status
  | .notFound _ => 404
  | .store _ => 500

end RequestError
end Catalog
