set_option autoImplicit false

namespace Catalog.Text

def isBlank (c : Char) : Bool :=
  let code := c.toNat
  (0x09 ≤ code && code ≤ 0x0D) || code == 0x20 || code == 0x85 || code == 0xA0 || code == 0x1680
    || (0x2000 ≤ code && code ≤ 0x200A) || code == 0x2028 || code == 0x2029 || code == 0x202F
    || code == 0x205F || code == 0x3000

def dropBlanks (cs : List Char) : List Char :=
  cs.dropWhile isBlank

def trimChars (cs : List Char) : List Char :=
  (dropBlanks (dropBlanks cs).reverse).reverse

def trim (s : String) : String :=
  String.ofList (trimChars s.toList)

def nonBlank (values : List String) : List String :=
  (values.map trim).filter (· ≠ "")

def splitAt (separator : Char) (s : String) : List String :=
  (s.toList.splitOn separator).map String.ofList

-- An empty place between two commas is no member.
def members (list : String) : List String :=
  nonBlank (splitAt ',' list)

end Catalog.Text
