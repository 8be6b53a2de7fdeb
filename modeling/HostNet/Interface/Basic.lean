import HostNet.Address.Class
import HostNet.Binding
import HostNet.Text.Fields

/-!
Interfaces with their bindings, and the single entries from which they are put together.
-/

namespace HostNet

/-- One binding of a named interface, as an enumeration finds it. -/
structure Entry where
  name : String
  index : UInt32
  binding : Binding
  deriving DecidableEq, Repr

/-- An interface with its bindings, in the order of their discovery. -/
structure Interface where
  name : String
  displayName : String
  index : UInt32
  bindings : List Binding
  deriving DecidableEq, Repr

namespace Interface

def unicasts (i : Interface) : List Address :=
  i.bindings.map (·.unicast)

def hasAddress (i : Interface) (a : Address) : Bool :=
  i.unicasts.contains a

def isLoopback (i : Interface) : Bool :=
  i.unicasts.any (·.isLoopback)

def text (i : Interface) : String :=
  i.name ++ " (index " ++ toString i.index.toNat ++ "): " ++
    String.ofList (Text.joined [',', ' '] (i.bindings.map (·.text.toList)))

end Interface

end HostNet
