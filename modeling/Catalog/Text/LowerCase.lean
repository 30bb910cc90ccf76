import Catalog.Text.LetterCase

set_option autoImplicit false

namespace Catalog.Text

def isAsciiCapital (c : Char) : Bool := 'A' ≤ c && c ≤ 'Z'

def asciiLower (c : Char) : Char :=
  if isAsciiCapital c then Char.ofNat (c.toNat + 32) else c

def isCased (c : Char) : Bool :=
  if c.toNat < 0x80 then isAsciiCapital c || ('a' ≤ c && c ≤ 'z')
  else inRanges casedRanges c.toNat

-- The ASCII ones are the apostrophe, the full stop, the colon, the circumflex and the grave accent.
def isCaseIgnorable (c : Char) : Bool :=
  if c.toNat < 0x80 then [0x27, 0x2E, 0x3A, 0x5E, 0x60].contains c.toNat
  else inRanges caseIgnorableRanges c.toNat

def lowerChar (c : Char) : List Char :=
  if c.toNat < 0x80 then [asciiLower c]
  else if c.toNat = 0x130 then ['i', '\u0307']
  else
    match capitalRuns.find? (·.covers c.toNat) with
    | some run => [Char.ofNat ((c.toNat : Int) + run.offset).toNat]
    | none => [c]

def meetsCased (cs : List Char) : Bool :=
  ((cs.dropWhile isCaseIgnorable).head?.map isCased).getD false

def lowerSigma (before after : List Char) : Char :=
  if meetsCased before && !meetsCased after then 'ς' else 'σ'

-- `before` holds the characters to the left, the nearest first.
def lowerFrom : List Char → List Char → List Char
  | _, [] => []
  | before, c :: after =>
    (if c = 'Σ' then [lowerSigma before after] else lowerChar c) ++ lowerFrom (c :: before) after

def lower (s : String) : String :=
  String.ofList (lowerFrom [] s.toList)

def occursIn (needle : List Char) : List Char → Bool
  | [] => needle.isEmpty
  | c :: r => needle.isPrefixOf (c :: r) || occursIn needle r

def contains (text needle : String) : Bool :=
  occursIn needle.toList text.toList

end Catalog.Text
