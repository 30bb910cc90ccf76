import Catalog.Numeric.Binary64

set_option autoImplicit false

namespace Catalog.Numeral

def isDigit (c : Char) : Bool := '0' ≤ c && c ≤ '9'

def digitValue (c : Char) : Nat := c.toNat - '0'.toNat

def ofDigits (cs : List Char) : Nat :=
  cs.foldl (fun n c => 10 * n + digitValue c) 0

def digits (n : Nat) : List Char :=
  Nat.toDigits 10 n

def text (n : Nat) : String :=
  String.ofList (digits n)

def intText (n : Int) : String :=
  if n < 0 then "-" ++ text n.natAbs else text n.natAbs

def splitPlain? (cs : List Char) : Option (List Char × List Char) :=
  let whole := cs.takeWhile isDigit
  let fraction? : Option (List Char) :=
    match cs.dropWhile isDigit with
    | [] => some []
    | c :: rest => if c = '.' && rest.all isDigit then some rest else none
  match fraction? with
  | some fraction => if whole.isEmpty && fraction.isEmpty then none else some (whole, fraction)
  | none => none

def ofPlain? (cs : List Char) : Option Binary64 :=
  (splitPlain? cs).map fun (whole, fraction) =>
    Binary64.ofRatio false (ofDigits (whole ++ fraction)) (Nat.pow 10 fraction.length)

-- On the characters to come: whether there was a digit, and whether there was a point.
def isPlainFrom : Bool → Bool → List Char → Bool
  | digit, _, [] => digit
  | digit, point, c :: rest =>
    if isDigit c then isPlainFrom true point rest
    else if c = '.' && !point then isPlainFrom digit true rest
    else false

def isPlain (cs : List Char) : Bool := isPlainFrom false false cs

def splitSign : List Char → Bool × List Char
  | '-' :: rest => (true, rest)
  | '+' :: rest => (false, rest)
  | cs => (false, cs)

theorem splitSign_of_unsigned {cs : List Char} (noMinus : '-' ∉ cs) (noPlus : '+' ∉ cs) :
    splitSign cs = (false, cs) := by
  unfold splitSign
  split
  next => exact absurd List.mem_cons_self noMinus
  next => exact absurd List.mem_cons_self noPlus
  next => rfl

def isExponentMark (c : Char) : Bool := c = 'e' || c = 'E'

def exponent? : List Char → Option Int
  | [] => some 0
  | _ :: rest =>
    let (negative, digits) := splitSign rest
    if digits.isEmpty || !digits.all isDigit then none
    else some (if negative then -(ofDigits digits : Int) else ofDigits digits)

-- Any notation of a number, words and powers of ten among them.
def general? (cs : List Char) : Option Binary64 :=
  let (negative, body) := splitSign cs
  let word := String.ofList (body.map Char.toLower)
  if word = "inf" ∨ word = "infinity" then some (.infinite negative)
  else if word = "nan" then some .nan
  else
    match splitPlain? (body.takeWhile (!isExponentMark ·)),
      exponent? (body.dropWhile (!isExponentMark ·)) with
    | some (whole, fraction), some e =>
      some (.ofRatio negative (ofDigits (whole ++ fraction) * Nat.pow 10 e.toNat)
        (Nat.pow 10 (fraction.length + (-e).toNat)))
    | _, _ => none

def count? (s : String) : Option Nat :=
  let cs := match s.toList with
    | '+' :: rest => rest
    | cs => cs
  if !cs.isEmpty && cs.all isDigit && ofDigits cs < Nat.pow 2 64 then some (ofDigits cs) else none

def integer? (s : String) : Option Int :=
  let (negative, cs) := splitSign s.toList
  if cs.isEmpty || !cs.all isDigit then none
  else
    let n : Int := if negative then -(ofDigits cs : Int) else ofDigits cs
    if -(Int.pow 2 63) ≤ n ∧ n < Int.pow 2 63 then some n else none

end Catalog.Numeral
