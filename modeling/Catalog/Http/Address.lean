import Catalog.Numeric.Numeral
import Catalog.Text.Blank

set_option autoImplicit false

namespace Catalog.Address

def isOctet (s : String) : Bool :=
  let cs := s.toList
  !cs.isEmpty && cs.length ≤ 3 && cs.all Numeral.isDigit && (cs.length == 1 || cs.head? != some '0')
    && Numeral.ofDigits cs ≤ 255

def isFourOctets (s : String) : Bool :=
  let octets := Text.splitAt '.' s
  octets.length == 4 && octets.all isOctet

def isBelow (limit : Nat) (s : String) : Bool :=
  let cs := s.toList
  !cs.isEmpty && cs.all Numeral.isDigit && Numeral.ofDigits cs < limit

def isHexDigit (c : Char) : Bool :=
  Numeral.isDigit c || ('a' ≤ c && c ≤ 'f') || ('A' ≤ c && c ≤ 'F')

def isGroup (s : String) : Bool :=
  let cs := s.toList
  !cs.isEmpty && cs.length ≤ 4 && cs.all isHexDigit

-- Four octets may stand for the last two groups.
def groupCount? (octetsAllowed : Bool) : List String → Option Nat
  | [] => some 0
  | [last] =>
    if isGroup last then some 1
    else if octetsAllowed && isFourOctets last then some 2
    else none
  | group :: rest => if isGroup group then (groupCount? octetsAllowed rest).map (· + 1) else none

def groupsOf (s : String) : List String :=
  if s = "" then [] else Text.splitAt ':' s

def splitGap? : List Char → Option (List Char × List Char)
  | ':' :: ':' :: rest => some ([], rest)
  | c :: rest => (splitGap? rest).map fun (before, after) => (c :: before, after)
  | [] => none

def isEightGroups (s : String) : Bool :=
  match splitGap? s.toList with
  | none => groupCount? true (groupsOf s) == some 8
  | some (before, after) =>
    match groupCount? false (groupsOf (String.ofList before)),
      groupCount? true (groupsOf (String.ofList after)) with
    | some m, some n => m + n ≤ 7
    | _, _ => false

def isScoped (s : String) : Bool :=
  match Text.splitAt '%' s with
  | [groups] => isEightGroups groups
  | [groups, zone] => isEightGroups groups && isBelow (Nat.pow 2 32) zone
  | _ => false

def isValid (s : String) : Bool :=
  match s.toList with
  | '[' :: rest =>
    let host := rest.takeWhile (· ≠ ']')
    match rest.dropWhile (· ≠ ']') with
    | ']' :: ':' :: port =>
      isScoped (String.ofList host) && isBelow (Nat.pow 2 16) (String.ofList port)
    | _ => false
  | cs =>
    let host := cs.takeWhile (· ≠ ':')
    match cs.dropWhile (· ≠ ':') with
    | _ :: port => isFourOctets (String.ofList host) && isBelow (Nat.pow 2 16) (String.ofList port)
    | [] => false

end Catalog.Address
