import HostNet.Address.Presentation
import HostNet.Address.Standard

/-!
An address with a port number, and the socket addresses that stand for it outside.
-/

namespace HostNet

structure Endpoint where
  address : Address
  portNumber : UInt16
  deriving DecidableEq, Repr

/-- A socket address of the standard kind; IPv6 ones carry flow information and a scope. -/
inductive StandardSocket where
  | v4 (octets : Octets 4) (portNumber : UInt16)
  | v6 (octets : Octets 16) (portNumber : UInt16) (flow scope : UInt32)
  deriving DecidableEq, Repr

namespace StandardSocket

/-- The standard form, with the scope inside the brackets unless it is zero. -/
def text : StandardSocket → String
  | .v4 octets number =>
    String.ofList ((StandardAddress.v4 octets).chars ++ ':' :: Numeral.decimal number.toNat)
  | .v6 octets number _ scope =>
    let suffix := if scope = 0 then [] else '%' :: Numeral.decimal scope.toNat
    String.ofList ('[' :: (StandardAddress.v6 octets).chars ++ suffix ++
      [']', ':'] ++ Numeral.decimal number.toNat)

end StandardSocket

namespace Endpoint

def family (e : Endpoint) : Family :=
  e.address.family

def identity (e : Endpoint) : Address.Identity × UInt16 :=
  (e.address.identity, e.portNumber)

/-- Flow information is always zero; an undefined address has no socket address. -/
def standardSocket? (e : Endpoint) : Option StandardSocket :=
  match e.address with
  | .unspecified => none
  | .v4 octets => some (.v4 octets e.portNumber)
  | .v6 octets scope => some (.v6 octets e.portNumber 0 scope)

def ofStandardSocket : StandardSocket → Endpoint
  | .v4 octets number => ⟨.v4 octets, number⟩
  | .v6 octets number _ scope => ⟨.v6 octets scope, number⟩

def text (e : Endpoint) : String :=
  let number := ':' :: Numeral.decimal e.portNumber.toNat
  match e.family with
  | .ipv6 => String.ofList ('[' :: e.address.text.toList ++ ']' :: number)
  | _ => String.ofList (e.address.text.toList ++ number)

end Endpoint

end HostNet
