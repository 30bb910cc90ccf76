import Catalog.Failure
import Catalog.Numeric.Numeral

set_option autoImplicit false

namespace Catalog

inductive Comparison where
  | lt
  | lte
  | gt
  | gte
deriving DecidableEq, Repr

namespace Comparison

def name : Comparison → String
  | .lt => "lt"
  | .lte => "lte"
  | .gt => "gt"
  | .gte => "gte"

def ofName? (s : String) : Option Comparison :=
  [lt, lte, gt, gte].find? (·.name = s)

def isUpper : Comparison → Bool
  | .lt | .lte => true
  | .gt | .gte => false

def isInclusive : Comparison → Bool
  | .lte | .gte => true
  | .lt | .gt => false

def holds : Comparison → Binary64 → Binary64 → Bool
  | .lt, x, limit => x.lt limit
  | .lte, x, limit => x.le limit
  | .gt, x, limit => limit.lt x
  | .gte, x, limit => limit.le x

end Comparison

structure Bound where
  value : Binary64
  inclusive : Bool
deriving DecidableEq

structure Interval where
  lower : Option Bound
  upper : Option Bound
deriving DecidableEq

namespace Interval

def isUnbounded (i : Interval) : Bool := i.lower.isNone && i.upper.isNone

def aboveLower (i : Interval) (x : Binary64) : Bool :=
  match i.lower with
  | some b => if b.inclusive then b.value.le x else b.value.lt x
  | none => true

def belowUpper (i : Interval) (x : Binary64) : Bool :=
  match i.upper with
  | some b => if b.inclusive then x.le b.value else x.lt b.value
  | none => true

def contains (i : Interval) (x : Binary64) : Bool :=
  i.aboveLower x && i.belowUpper x

end Interval

structure RangeTerm where
  comparison : Comparison
  value : Binary64
deriving DecidableEq

namespace RangeTerm

def read? (term : String) : Option RangeTerm :=
  let cs := term.toList
  match cs.dropWhile (· ≠ '_') with
  | [] => none
  | _ :: numeral =>
    match Comparison.ofName? (String.ofList (cs.takeWhile (· ≠ '_'))), Numeral.ofPlain? numeral with
    | some comparison, some value => if value.isFinite then some ⟨comparison, value⟩ else none
    | _, _ => none

def bound (t : RangeTerm) : Bound := ⟨t.value, t.comparison.isInclusive⟩

def interval (t : RangeTerm) : Interval :=
  if t.comparison.isUpper then ⟨none, some t.bound⟩ else ⟨some t.bound, none⟩

end RangeTerm

inductive NumberKind where
  | decimal
  | integer
deriving DecidableEq, Repr

structure RangeField where
  name : String
  kind : NumberKind
deriving DecidableEq, Repr

namespace RangeField

def price : RangeField := ⟨"price", .decimal⟩
def stock : RangeField := ⟨"stock", .integer⟩

def readTerm (field : RangeField) (term : String) : Except QueryError RangeTerm :=
  match RangeTerm.read? term with
  | some t =>
    if field.kind = .integer && !t.value.isWhole then .error (.invalidRangeValue field.name term)
    else .ok t
  | none => .error (.invalidRangeValue field.name term)

-- Too many terms are refused before any is read, and terms are read before they are compared.
def interval (field : RangeField) : List String → Except QueryError Interval
  | [] => .error (.invalidRangeValue field.name "")
  | [term] => do
    let t ← field.readTerm term
    return t.interval
  | [first, second] => do
    let s ← field.readTerm first
    let t ← field.readTerm second
    if s.comparison.isUpper = t.comparison.isUpper then
      .error (.conflictingRangeTerms field.name first second)
    else if s.comparison.isUpper then return ⟨some t.bound, some s.bound⟩
    else return ⟨some s.bound, some t.bound⟩
  | terms => .error (.tooManyRangeTerms field.name terms.length)

end RangeField
end Catalog
