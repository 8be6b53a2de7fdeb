import HostNet.Binding
import HostNet.Text.Utf8

/-!
The kernel as data: what it holds, and how it answers each call. An answer may depend on how many
calls of its kind came before, so a kernel whose interfaces change between two calls is one of them.
-/

namespace HostNet

/-- An interface name as the kernel has it: any octets, ended by the first zero if there is one. -/
abbrev RawName := List UInt8

/-- The name as text; octets that are no UTF-8 show as replacement characters. -/
def RawName.text (name : RawName) : String :=
  String.ofList (Utf8.repair (name.takeWhile (· ≠ 0)))

inductive SocketAddress where
  | v4 (octets : Octets 4)
  | v6 (octets : Octets 16) (scope : UInt32)
  | foreign (family : UInt16)
  deriving DecidableEq, Repr

namespace SocketAddress

def address? : SocketAddress → Option Address
  | .v4 octets => some (.v4 octets)
  | .v6 octets scope => some (.v6 octets scope)
  | .foreign _ => none

/-- The address without its scope, as netmasks and broadcast addresses are read. -/
def unscoped? (s : SocketAddress) : Option Address :=
  s.address?.map (·.unscoped)

def familyNumber : SocketAddress → Nat
  | .v4 _ => 2
  | .v6 _ _ => 10
  | .foreign family => family.toNat

end SocketAddress

abbrev InterfaceFlags := UInt32

namespace InterfaceFlags

def isUp (flags : InterfaceFlags) : Bool :=
  flags &&& 1 ≠ 0

def broadcasts (flags : InterfaceFlags) : Bool :=
  flags &&& 2 ≠ 0

end InterfaceFlags

/-- A node of the list of interface addresses. An address may be missing. -/
structure Node where
  name : RawName
  flags : InterfaceFlags
  address : Option SocketAddress
  netmask : Option SocketAddress
  broadcast : Option SocketAddress
  deriving DecidableEq, Repr

/-- A slot of the buffer that a configuration call fills. -/
structure Slot where
  name : RawName
  address : SocketAddress
  deriving DecidableEq, Repr

namespace Slot

def blank : Slot := ⟨[], .foreign 0⟩

def size : Nat := 40

end Slot

/-- What a configuration call writes: slots from the first on, and the length it reports. -/
structure Configuration where
  slots : List Slot
  octets : Int
  deriving DecidableEq, Repr

structure Kernel where
  list : Except Errno (List Node)
  /-- The index that belongs to a name, zero for none; `round` counts the nodes visited before. -/
  indexOf : (round : Nat) → RawName → UInt32
  socketFault : Option Errno
  /-- The answer to the configuration call number `attempt` with room for `capacity` slots. -/
  configuration : (attempt capacity : Nat) → Except Errno Configuration
  /-- The answers about one interface; `round` counts the slots looked into before. -/
  flags : (round : Nat) → RawName → Except Errno Int16
  netmask : (round : Nat) → RawName → Except Errno SocketAddress
  broadcast : (round : Nat) → RawName → Except Errno SocketAddress
  index : (round : Nat) → RawName → Except Errno Int32

end HostNet
