import Catalog.Numeric.Numeral

set_option autoImplicit false

namespace Catalog

structure JsonNumeral where
  negative : Bool
  whole : List Char
  fraction : Option (List Char)
  exponent : Option (Bool × List Char)
deriving DecidableEq, Repr

-- A string is `none` when its escapes name half a surrogate pair.
inductive Document where
  | null
  | bool (value : Bool)
  | number (numeral : JsonNumeral)
  | text (value : Option String)
  | list (items : List Document)
  | record (members : List (Option String × Document))
deriving Inhabited

namespace JsonNumeral

-- Takes digits for as long as the number that they make fits 64 bits; the rest is left.
def takeDigits : Nat → List Char → Nat × List Char
  | n, [] => (n, [])
  | n, c :: rest =>
    let next := 10 * n + Numeral.digitValue c
    if next < Nat.pow 2 64 then takeDigits next rest else (n, c :: rest)

-- A negative zero is not an integer.
def int? (n : JsonNumeral) : Option Int :=
  if n.fraction.isSome || n.exponent.isSome then none
  else
    let magnitude := Numeral.ofDigits n.whole
    if n.negative then
      if magnitude = 0 ∨ Nat.pow 2 63 < magnitude then none else some (-(magnitude : Int))
    else if magnitude < Nat.pow 2 64 then some magnitude else none

-- Two steps of `10 ^ 308` take every number to zero, so the power is cut off there.
def dividePowers (x : Binary64) (power : Nat) : Binary64 :=
  let power := min power (3 * 308)
  let steps := (power - 1) / 308
  (List.replicate steps 308 ++ [power - steps * 308]).foldl (fun y k => scaleDown y k) x
where
  scaleDown (y : Binary64) (k : Nat) : Binary64 :=
    match (Binary64.ofNat (Nat.pow 10 k)).magnitude with
    | some (num, den) => y.scale den num
    | none => y

def multiplyPower (x : Binary64) (power : Nat) : Option Binary64 :=
  if power ≤ 308 then
    match (Binary64.ofNat (Nat.pow 10 power)).magnitude with
    | some (num, den) =>
      let y := x.scale num den
      if y.isFinite then some y else none
    | none => none
  else if x.isZero then some x else none

def float? (n : JsonNumeral) : Option Binary64 :=
  match n.int? with
  | some i => some (Binary64.ofInt i)
  | none =>
    let fraction := n.fraction.getD []
    let (m, overflow) := takeDigits 0 n.whole
    let (m, ignored) := takeDigits m fraction
    let shift : Int := (overflow.length : Int) - (fraction.length - ignored.length : Nat)
    let (negativeExponent, exponentDigits) := n.exponent.getD (false, [])
    let size := Numeral.ofDigits exponentDigits
    let power := if negativeExponent then shift - size else shift + size
    let x := Binary64.ofNat m
    let signed := fun y : Binary64 => if n.negative then y.neg else y
    if power < 0 then some (signed (dividePowers x power.natAbs))
    else (multiplyPower x power.natAbs).map signed

end JsonNumeral

namespace Document

def int? : Document → Option Int
  | .number n => n.int?
  | _ => none

def int64? (d : Document) : Option Int :=
  d.int?.filter (· < Int.pow 2 63)

def nat? (d : Document) : Option Nat :=
  (d.int?.filter (0 ≤ ·)).map Int.toNat

def float? : Document → Option Binary64
  | .number n => n.float?
  | _ => none

def text? : Document → Option String
  | .text value => value
  | _ => none

def bool? : Document → Option Bool
  | .bool b => some b
  | _ => none

def listOf? {α : Type} (read : Document → Option α) : Document → Option (List α)
  | .list items => items.mapM read
  | _ => none

def nullable? {α : Type} (read : Document → Option α) : Document → Option (Option α)
  | .null => some none
  | d => (read d).map some

def memberOf (members : List (Option String × Document)) (name : String) : List Document :=
  members.filterMap fun (key, value) => if key = some name then some value else none

-- By name, where a known one stands at most once, or as a list in the order of `names`, where the
-- last ones may be missing.
def fields? (names : List String) : Document → Option (List (Option Document))
  | .record members =>
    if members.any (·.1.isNone) then none
    else names.mapM fun name =>
      match memberOf members name with
      | [] => some none
      | [value] => some (some value)
      | _ => none
  | .list items =>
    if items.length ≤ names.length then
      some (items.map some ++ List.replicate (names.length - items.length) none)
    else none
  | _ => none

def required {α : Type} (read : Document → Option α) (field : Option Document) : Option α :=
  field.bind read

def withDefault {α : Type} (default : α) (read : Document → Option α) :
    Option Document → Option α
  | none => some default
  | some d => read d

end Document
end Catalog
