import HostNet.Address.Basic
import HostNet.Error

/-!
Addresses from and to raw memory. A raw IPv4 address is a word whose octets in memory are those of
the address; words have their least significant octet first, so that is the first octet. A raw IPv6
address is its octets.
-/

namespace HostNet.Address

def wordOf (o : Octets 4) : UInt32 :=
  UInt32.ofNat ((o.get 0).toNat + 0x100 *
    ((o.get 1).toNat + 0x100 * ((o.get 2).toNat + 0x100 * (o.get 3).toNat)))

def memoryOf (word : UInt32) : Octets 4 :=
  Vector.ofFn fun i => UInt8.ofNat (word.toNat >>> (8 * i.val))

def rawV4 (a : Address) : UInt32 :=
  wordOf a.lastFour

def ofRawV4 (word : UInt32) : Address :=
  .v4 (memoryOf word)

def rawV6 (a : Address) : Octets 16 :=
  a.buffer

def ofRawV6 (octets : Octets 16) (scope : UInt32) : Address :=
  .v6 octets scope

/-- Four octets make an IPv4 address, which drops the scope, and sixteen an IPv6 address. -/
def ofOctets? (octets : List UInt8) (scope : UInt32) : Option Address :=
  match (Octets.ofList? octets : Option (Octets 4)) with
  | some octets => some (.v4 octets)
  | none => (Octets.ofList? octets).map fun octets => .v6 octets scope

def ofMemory (octets : List UInt8) (scope : UInt32) : Except Error Address :=
  match ofOctets? octets scope with
  | some a => .ok a
  | none => .error (.outOfRange octets.length)

end HostNet.Address
