import Catalog.Command.Run

set_option autoImplicit false

namespace Catalog

def readFile (path : String) : IO FileAnswer := do
  try
    return .ok (← IO.FS.readFile path)
  catch error =>
    return .error (toString error)

end Catalog

open Catalog

def main (args : List String) : IO UInt32 := do
  -- a plan does not depend on the time at which a product came in
  let now : Instant := ⟨⟨1970, 1, 1⟩, 0, 0, 0, 0⟩
  let outcome ← run readFile now args
  IO.print outcome.stdout
  IO.eprint outcome.stderr
  return UInt32.ofNat outcome.code
