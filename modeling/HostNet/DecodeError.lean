import HostNet.Error

/-!
Why encoded data is refused: it has not the shape of the value asked for, or it has, but an address
in it is none.
-/

namespace HostNet

inductive DecodeError where
  | malformed
  | refused (cause : Error)
  deriving DecidableEq, Repr

namespace DecodeError

/-- Data has a reason of its own only where an address is refused. -/
def message? : DecodeError → Option String
  | .malformed => none
  | .refused cause => some cause.message

def ofAddress {α : Type} (r : Except Error α) : Except DecodeError α :=
  r.mapError DecodeError.refused

end DecodeError

end HostNet
