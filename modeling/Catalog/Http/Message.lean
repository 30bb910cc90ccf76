import Catalog.Http.Target
import Catalog.Json.Basic
import Catalog.Text.LowerCase
import Catalog.Text.Utf8

set_option autoImplicit false

namespace Catalog

namespace Header

-- The code is that of the grave accent.
def isTokenChar (c : Char) : Bool :=
  c.isAlphanum || "!#$%&'*+-.^_|~".toList.contains c || c.toNat == 0x60

def isToken (s : String) : Bool := s ≠ "" && s.toList.all isTokenChar

def maxNameBytes : Nat := 65535

def isName (s : String) : Bool := isToken s && s.utf8ByteSize ≤ maxNameBytes

-- No control character but the tab; bytes beyond ASCII need not make up characters.
def isValueByte (b : UInt8) : Bool := (0x20 ≤ b && b ≠ 0x7F) || b = 0x09

def isValue (bytes : List UInt8) : Bool := bytes.all isValueByte

end Header

structure Request where
  method : String
  target : Target
  headers : List (String × List UInt8) := []
deriving DecidableEq, Repr

inductive RequestFault where
  | method
  | target (error : TargetError)
  | headerName
  | headerValue
deriving DecidableEq, Repr

def RequestFault.message : RequestFault → String
  | .method => "invalid HTTP method"
  | .target error => error.message
  | .headerName => "invalid HTTP header name"
  | .headerValue => "failed to parse header value"

namespace Request

def headerFault? (headers : List (String × List UInt8)) : Option RequestFault :=
  headers.findSome? fun (name, value) =>
    if !Header.isName name then some .headerName
    else if !Header.isValue value then some .headerValue
    else none

def build (method uri : String) (headers : List (String × String)) :
    Except RequestFault Request := do
  if !Header.isToken method then throw .method
  let target ← (Target.read uri).mapError .target
  let headers := headers.map fun (name, value) => (name, Utf8.encode value)
  match headerFault? headers with
  | some fault => throw fault
  | none => return { method, target, headers }

def header? (r : Request) (name : String) : Option (List UInt8) :=
  (r.headers.find? fun h => h.1.toList.map Text.asciiLower = name.toList).map (·.2)

end Request

inductive Body where
  | empty
  | json (value : Json)
  | text (value : String)
deriving Inhabited

structure Response where
  status : Nat
  headers : List (String × String)
  body : Body
deriving Inhabited

namespace Response

def ofJson (status : Nat) (value : Json) : Response :=
  ⟨status, [("content-type", "application/json")], .json value⟩

def ofText (status : Nat) (value : String) : Response :=
  ⟨status, [("content-type", "text/plain; charset=utf-8")], .text value⟩

def bare (status : Nat) : Response := ⟨status, [], .empty⟩

def withoutBody (r : Response) : Response := { r with body := .empty }

def addHeaders (r : Response) (headers : List (String × String)) : Response :=
  { r with headers := r.headers ++ headers }

def header? (r : Response) (name : String) : Option String := r.headers.lookup name

end Response
end Catalog
