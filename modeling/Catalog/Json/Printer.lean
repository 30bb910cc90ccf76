import Catalog.Json.Basic
import Catalog.Numeric.Numeral
import Catalog.Numeric.Shortest

set_option autoImplicit false

namespace Catalog.Json

def hexDigit (n : Nat) : Char :=
  if n < 10 then Char.ofNat ('0'.toNat + n) else Char.ofNat ('a'.toNat + (n - 10))

def escapeChar (c : Char) : List Char :=
  match c.toNat with
  | 0x22 => ['\\', '"']
  | 0x5C => ['\\', '\\']
  | 0x08 => ['\\', 'b']
  | 0x09 => ['\\', 't']
  | 0x0A => ['\\', 'n']
  | 0x0C => ['\\', 'f']
  | 0x0D => ['\\', 'r']
  | code =>
    if code < 0x20 then ['\\', 'u', '0', '0', hexDigit (code / 16), hexDigit (code % 16)]
    else [c]

def quote (s : String) : String :=
  String.ofList ('"' :: s.toList.flatMap escapeChar ++ ['"'])

structure FloatLayout where
  leastPlain : Int
  greatestPlain : Int

-- From 0.00001 up to below 10 ^ 16 all places are written.
def floatLayout : FloatLayout := ⟨-5, 15⟩

def plainDigits (digits : List Char) (lead : Int) : List Char :=
  if lead < 0 then
    ['0', '.'] ++ List.replicate (lead.natAbs - 1) '0' ++ digits
  else
    let places := lead.toNat + 1
    if digits.length ≤ places then
      digits ++ List.replicate (places - digits.length) '0' ++ ['.', '0']
    else digits.take places ++ ['.'] ++ digits.drop places

def scientificDigits (digits : List Char) (lead : Int) : List Char :=
  let mantissa := match digits with
    | first :: second :: rest => first :: '.' :: second :: rest
    | one => one
  mantissa ++ ['e', if lead < 0 then '-' else '+'] ++ Numeral.digits lead.natAbs

def magnitudeText (rank : Nat) : List Char :=
  if rank = 0 then ['0', '.', '0']
  else
    let decimal := Shortest.ofRank rank
    let digits := Numeral.digits decimal.digits
    let lead := decimal.exponent + digits.length - 1
    if floatLayout.leastPlain ≤ lead ∧ lead ≤ floatLayout.greatestPlain then plainDigits digits lead
    else scientificDigits digits lead

def floatText : Binary64 → String
  | .finite negative rank _ =>
    String.ofList ((if negative then ['-'] else []) ++ magnitudeText rank)
  | _ => "null"

mutual

def compact : Json → String
  | .null => "null"
  | .bool true => "true"
  | .bool false => "false"
  | .int n => Numeral.intText n
  | .float x => floatText x
  | .str s => quote s
  | .arr items => "[" ++ String.intercalate "," (compactItems items) ++ "]"
  | .obj members => "\x7b" ++ String.intercalate "," (compactMembers members) ++ "\x7d"

def compactItems : List Json → List String
  | [] => []
  | item :: rest => compact item :: compactItems rest

def compactMembers : List (String × Json) → List String
  | [] => []
  | (name, value) :: rest => (quote name ++ ":" ++ compact value) :: compactMembers rest

end

end Catalog.Json
