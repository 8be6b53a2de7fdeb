import HostNet.Address.Raw
import HostNet.Binary.Basic
import HostNet.Endpoint
import HostNet.Interface.Basic
import HostNet.Source

/-!
The binary forms of the library's values: fields in order, without names. An address is its octets
and its scope index; without octets it is the undefined address, whatever the scope.
-/

namespace HostNet

open Binary

namespace Address

def binary (a : Address) : List UInt8 :=
  encodeList (fun b => [b]) a.octets ++ encodeNat 4 a.scope.toNat

def binaryReader : Reader Address := do
  let octets ← Reader.octetSequence
  let scope ← Reader.number 4
  if octets.isEmpty then return .unspecified
  else StateT.lift (DecodeError.ofAddress (ofMemory octets (UInt32.ofNat scope)))

end Address

namespace Endpoint

def binary (e : Endpoint) : List UInt8 :=
  e.address.binary ++ encodeNat 2 e.portNumber.toNat

def binaryReader : Reader Endpoint := do
  let address ← Address.binaryReader
  let number ← Reader.number 2
  return ⟨address, UInt16.ofNat number⟩

end Endpoint

namespace Binding

def binary (b : Binding) : List UInt8 :=
  b.unicast.binary ++ encodeOption Address.binary b.netmask ++ encodeOption Address.binary b.broadcast

def binaryReader : Reader Binding := do
  let unicast ← Address.binaryReader
  let netmask ← Reader.option Address.binaryReader
  let broadcast ← Reader.option Address.binaryReader
  return ⟨unicast, netmask, broadcast⟩

end Binding

namespace Interface

def binary (i : Interface) : List UInt8 :=
  encodeText i.name ++ encodeText i.displayName ++ encodeNat 4 i.index.toNat ++
    encodeList Binding.binary i.bindings

def binaryReader : Reader Interface := do
  let name ← Reader.text
  let displayName ← Reader.text
  let index ← Reader.number 4
  let bindings ← Reader.sequence Binding.binaryReader
  return ⟨name, displayName, UInt32.ofNat index, bindings⟩

end Interface

namespace Family

def binary : Family → List UInt8
  | .unspecified => encodeNat 4 0
  | .ipv4 => encodeNat 4 1
  | .ipv6 => encodeNat 4 2

def binaryReader : Reader Family :=
  Reader.choice all

end Family

namespace SourceKind

def binary : SourceKind → List UInt8
  | .list => encodeNat 4 0
  | .configuration => encodeNat 4 1

def binaryReader : Reader SourceKind :=
  Reader.choice all

end SourceKind

end HostNet
