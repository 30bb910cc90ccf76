import Catalog.Text.Blank
import Catalog.Text.LowerCase
import Catalog.Time.Instant

set_option autoImplicit false

namespace Catalog.Instant

def digits? (limit : Nat) (cs : List Char) : Option (Nat × List Char) :=
  let digits := (cs.take limit).takeWhile Numeral.isDigit
  if digits.isEmpty then none else some (Numeral.ofDigits digits, cs.drop digits.length)

def twoDigits? (cs : List Char) : Option (Nat × List Char) :=
  digits? 2 (Text.dropBlanks cs)

def year? (cs : List Char) : Option (Int × List Char) :=
  match Text.dropBlanks cs with
  | '-' :: rest => (digits? rest.length rest).map fun (n, rest) => (-(n : Int), rest)
  | '+' :: rest => (digits? rest.length rest).map fun (n, rest) => ((n : Int), rest)
  | cs => (digits? 4 cs).map fun (n, rest) => ((n : Int), rest)

def afterMark? (mark : Char) (cs : List Char) : Option (List Char) :=
  match Text.dropBlanks cs with
  | [] => none
  | c :: rest => if c = mark then some rest else none

def date? (cs : List Char) : Option (Date × List Char) := do
  let (year, cs) ← year? cs
  let cs ← afterMark? '-' cs
  let (month, cs) ← twoDigits? cs
  let cs ← afterMark? '-' cs
  let (day, cs) ← twoDigits? cs
  return (⟨year, month, day⟩, cs)

def fraction? : List Char → Option (Nat × List Char)
  | '.' :: rest =>
    (digits? 9 rest).map fun (n, after) =>
      (n * Nat.pow 10 (9 - (rest.length - after.length)), after.dropWhile Numeral.isDigit)
  | cs => some (0, cs)

def exactTwo? (bound : Nat) : List Char → Option (Nat × List Char)
  | a :: b :: rest =>
    if Numeral.isDigit a && Numeral.isDigit b && Numeral.digitValue a < bound then
      some (10 * Numeral.digitValue a + Numeral.digitValue b, rest)
    else none
  | _ => none

def zoneMinutes? (cs : List Char) : Option (Nat × List Char) := do
  let (hours, cs) ← exactTwo? 10 cs
  let (minutes, cs) ← exactTwo? 6 (cs.dropWhile fun c => c = ':' || Text.isBlank c)
  return (60 * hours + minutes, cs)

def zone? : List Char → Option (Int × List Char)
  | [] => none
  | c :: rest =>
    if (c :: rest.take 2).map Text.asciiLower = ['u', 't', 'c'] then some (0, rest.drop 2)
    else if c = 'Z' || c = 'z' then some (0, rest)
    else if c = '+' then (zoneMinutes? rest).map fun (n, rest) => ((n : Int), rest)
    else if c = '-' || c = '\u2212' then (zoneMinutes? rest).map fun (n, rest) => (-(n : Int), rest)
    else none

def isValidTime (t : Instant) : Bool :=
  t.date.isValid && t.hour ≤ 23 && t.minute ≤ 59 && t.second ≤ 60

def read? (s : String) : Option Instant := do
  let (date, cs) ← date? s.toList
  let cs ← match cs with
    | c :: rest => if c = 'T' || c = 't' || c = ' ' then some rest else none
    | [] => none
  let (hour, cs) ← twoDigits? cs
  let cs ← afterMark? ':' cs
  let (minute, cs) ← twoDigits? cs
  let cs ← afterMark? ':' cs
  let (second, cs) ← twoDigits? cs
  let (nanosecond, cs) ← fraction? cs
  let (zone, cs) ← zone? (Text.dropBlanks cs)
  let localTime : Instant := ⟨date, hour, minute, second, nanosecond⟩
  let t := localTime.fromLocal zone
  if (Text.dropBlanks cs).isEmpty && isValidTime localTime && zone.natAbs < 1440 && t.date.isValid
  then some t else none

end Catalog.Instant
