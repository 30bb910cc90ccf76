import Catalog.Failure
import Catalog.Text.Blank
import Catalog.Text.LowerCase

set_option autoImplicit false

namespace Catalog

inductive Direction where
  | ascending
  | descending
deriving DecidableEq, Repr

namespace Direction

def name : Direction → String
  | .ascending => "asc"
  | .descending => "desc"

def ofName? (s : String) : Option Direction :=
  let lowered := s.toList.map Text.asciiLower
  if lowered = "asc".toList then some .ascending
  else if lowered = "desc".toList then some .descending
  else none

end Direction

structure OrderKey where
  field : String
  direction : Direction
deriving DecidableEq, Repr

namespace OrderKey

def splitLast? (c : Char) : List Char → Option (List Char × List Char)
  | [] => none
  | x :: rest =>
    match splitLast? c rest with
    | some (before, after) => some (x :: before, after)
    | none => if x = c then some ([], rest) else none

def read? (term : String) : Option OrderKey :=
  match splitLast? '.' term.toList with
  | none => if term = "" then none else some ⟨term, .ascending⟩
  | some (field, direction) =>
    if field.isEmpty then none
    else (Direction.ofName? (String.ofList direction)).map (⟨String.ofList field, ·⟩)

def text (key : OrderKey) : String :=
  key.field ++ "." ++ key.direction.name

def readList (list : String) : Except QueryError (List OrderKey) :=
  (Text.members list).mapM fun term =>
    match read? term with
    | some key => .ok key
    | none => .error (.invalidOrder term)

end OrderKey
end Catalog
