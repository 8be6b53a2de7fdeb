import HostNet.Address.Standard

/-!
Blocks of addresses that agree in their first bits, and the netmasks that say how many: a run of
ones, then zeros only.
-/

namespace HostNet

/-- An address and the number of leading bits that name its block. -/
inductive Network where
  | v4 (address : Octets 4) (prefixLength : Nat)
  | v6 (address : Octets 16) (prefixLength : Nat)
  deriving DecidableEq, Repr

namespace Netmask

def octet (ones : Nat) : UInt8 :=
  UInt8.ofNat (256 - 1 <<< (8 - ones))

def octets : Nat → Nat → List UInt8
  | 0, _ => []
  | count + 1, ones => octet ones :: octets count (ones - 8)

def length? (mask : List UInt8) : Option Nat :=
  (List.range (8 * mask.length + 1)).find? fun ones => octets mask.length ones = mask

end Netmask

namespace Network

def ofMask? (address mask : Address) : Option Network :=
  match address, mask with
  | .v4 octets, .v4 mask => (Netmask.length? mask.toList).map (Network.v4 octets)
  | .v6 octets _, .v6 mask _ => (Netmask.length? mask.toList).map (Network.v6 octets)
  | _, _ => none

def prefixLength : Network → Nat
  | .v4 _ length => length
  | .v6 _ length => length

def address : Network → StandardAddress
  | .v4 octets _ => .v4 octets
  | .v6 octets _ => .v6 octets

def cleared {n : Nat} (octets : Octets n) (length : Nat) : Octets n :=
  Vector.ofFn fun i => octets[i] &&& (Netmask.octets n length).getD i 0

/-- The same block, named by its first address. -/
def truncated : Network → Network
  | .v4 octets length => .v4 (cleared octets length) length
  | .v6 octets length => .v6 (cleared octets length) length

def text (net : Network) : String :=
  String.ofList (net.address.chars ++ '/' :: Numeral.decimal net.prefixLength)

end Network

end HostNet
