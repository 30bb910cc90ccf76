import Catalog.Http.Authority
import Catalog.Text.Blank
import Catalog.Text.Utf8

set_option autoImplicit false

namespace Catalog

structure Target where
  -- empty when the target is an authority alone
  path : String
  query : String
deriving DecidableEq, Repr

inductive TargetError where
  | empty
  | tooLong
  | schemeTooLong
  | invalidCharacter
  | malformed
  | authority (error : AuthorityError)
deriving DecidableEq, Repr

def TargetError.message : TargetError → String
  | .empty => "empty string"
  | .tooLong => "uri too long"
  | .schemeTooLong => "scheme too long"
  | .invalidCharacter | .authority .invalidCharacter => "invalid uri character"
  | .malformed => "invalid format"
  | .authority .malformed => "invalid authority"

namespace Target

def maxBytes : Nat := 65534

def maxSchemeLength : Nat := 64

-- Quotes and braces should be encoded in a path, but are let through.
def isPathChar (c : Char) : Bool :=
  let code := c.toNat
  code == 0x21 || code == 0x22 || (0x24 ≤ code && code ≤ 0x3B) || code == 0x3D
    || (0x40 ≤ code && code ≤ 0x5F) || (0x61 ≤ code && code ≤ 0x7E) || 0x80 ≤ code

def isQueryChar (c : Char) : Bool :=
  let code := c.toNat
  code == 0x21 || (0x24 ≤ code && code ≤ 0x3B) || code == 0x3D || (0x3F ≤ code && code ≤ 0x7E)
    || 0x80 ≤ code

def isSchemeChar (c : Char) : Bool := c.isAlphanum || "+-.~".toList.contains c

def withoutFragment (cs : List Char) : List Char :=
  cs.takeWhile (· ≠ '#')

def ofPath (cs : List Char) : Except TargetError Target :=
  let cs := withoutFragment cs
  let path := cs.takeWhile (· ≠ '?')
  let query := (cs.dropWhile (· ≠ '?')).drop 1
  if path.all isPathChar && query.all isQueryChar then
    .ok ⟨if path.isEmpty then "/" else String.ofList path, String.ofList query⟩
  else .error .invalidCharacter

-- The scheme may be empty, but `://` alone has none.
def splitScheme? (cs : List Char) : Option (List Char × List Char) :=
  match cs.dropWhile isSchemeChar with
  | ':' :: '/' :: '/' :: rest =>
    if cs.length = 3 then none else some (cs.takeWhile isSchemeChar, rest)
  | _ => none

def ofAbsolute (scheme rest : List Char) : Except TargetError Target := do
  if maxSchemeLength < scheme.length then throw .schemeTooLong
  if rest.isEmpty then throw .empty
  let (authority, rest) := Authority.split rest
  (Authority.check authority).mapError .authority
  if authority.isEmpty then throw .malformed
  ofPath rest

def ofAuthority (cs : List Char) : Except TargetError Target := do
  let (authority, rest) := Authority.split cs
  (Authority.check authority).mapError .authority
  if rest.isEmpty then return ⟨"", ""⟩
  else if cs.length = 1 then throw .invalidCharacter
  else throw .malformed

def read (s : String) : Except TargetError Target :=
  if s = "" then .error .empty
  else if maxBytes < s.utf8ByteSize then .error .tooLong
  else if s = "*" then .ok ⟨"*", ""⟩
  else
    let cs := s.toList
    if cs.head? = some '/' then ofPath cs
    else match splitScheme? cs with
      | some (scheme, rest) => ofAbsolute scheme rest
      | none => ofAuthority cs

end Target

namespace Percent

def hexValue? (b : UInt8) : Option UInt8 :=
  if 0x30 ≤ b && b ≤ 0x39 then some (b - 0x30)
  else if 0x41 ≤ b && b ≤ 0x46 then some (b - 0x41 + 10)
  else if 0x61 ≤ b && b ≤ 0x66 then some (b - 0x61 + 10)
  else none

def decode : List UInt8 → List UInt8
  | [] => []
  | 0x25 :: h :: l :: rest =>
    match hexValue? h, hexValue? l with
    | some high, some low => (16 * high + low) :: decode rest
    | _, _ => 0x25 :: decode (h :: l :: rest)
  | b :: rest => b :: decode rest

def plusToSpace (b : UInt8) : UInt8 := if b = 0x2B then 0x20 else b

def decodeComponent (s : String) : String :=
  Utf8.decodeLossy (decode ((Utf8.encode s).map plusToSpace))

def splitPair (piece : String) : String × String :=
  let cs := piece.toList
  (String.ofList (cs.takeWhile (· ≠ '=')), String.ofList ((cs.dropWhile (· ≠ '=')).drop 1))

def pairs (query : String) : List (String × String) :=
  ((Text.splitAt '&' query).filter (· ≠ "")).map fun piece =>
    let (key, value) := splitPair piece
    (decodeComponent key, decodeComponent value)

end Percent

end Catalog
