set_option autoImplicit false

namespace Catalog

inductive AuthorityError where
  | invalidCharacter
  | malformed
deriving DecidableEq, Repr

namespace Authority

inductive Brackets where
  | absent
  | opened
  | closed
deriving DecidableEq, Repr

-- Colons and percent signs count from the last `@` or `]` on: those of a password or of a host in
-- brackets do not separate a port.
structure Scan where
  brackets : Brackets := .absent
  colons : Nat := 0
  percent : Bool := false
deriving DecidableEq, Repr

def maxColons : Nat := 8

def isDelimiter (c : Char) : Bool := c = '/' || c = '?' || c = '#'

def isPlainChar (c : Char) : Bool := c.isAlphanum || "!$&'()*+,-.;=_~".toList.contains c

namespace Scan

def step (s : Scan) (c : Char) : Except AuthorityError Scan :=
  if c = ':' then
    if s.colons < maxColons then .ok { s with colons := s.colons + 1 } else .error .malformed
  else if c = '[' then
    if s.brackets = .absent && !s.percent then .ok { s with brackets := .opened }
    else .error .malformed
  else if c = ']' then
    if s.brackets = .opened then .ok { brackets := .closed } else .error .malformed
  else if c = '@' then .ok { brackets := s.brackets }
  else if c = '%' then .ok { s with percent := true }
  else if isPlainChar c then .ok s
  else .error .invalidCharacter

def isComplete (s : Scan) : Bool := s.brackets ≠ .opened && s.colons ≤ 1 && !s.percent

end Scan

def check (cs : List Char) : Except AuthorityError Unit := do
  let scan ← cs.foldlM Scan.step {}
  if scan.isComplete && cs.getLast? ≠ some '@' then .ok () else .error .malformed

def split (cs : List Char) : List Char × List Char :=
  (cs.takeWhile (!isDelimiter ·), cs.dropWhile (!isDelimiter ·))

end Authority
end Catalog
