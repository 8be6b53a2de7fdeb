import HostNet.Address.Family

/-!
Addresses by family. Octets are in network order. An IPv6 address carries the scope index of the
local interface that it belongs to, zero for none; no other address has a scope.

`Layout` is the flat form: one buffer of sixteen octets for both families, the family, the scope
index, and a mark for addresses that IPv4 can express. `Layout.Canonical` says which flat values
stand for an address.
-/

namespace HostNet

abbrev Octets (n : Nat) := Vector UInt8 n

def Octets.ofList? {n : Nat} (octets : List UInt8) : Option (Octets n) :=
  if h : octets.length = n then some ⟨octets.toArray, by simpa using h⟩ else none

/-- The last four of sixteen octets, where an IPv4 address stands inside an IPv6 one. -/
def Octets.lastFour (octets : Octets 16) : Octets 4 :=
  (octets.drop 12).cast rfl

inductive Address where
  | unspecified
  | v4 (octets : Octets 4)
  | v6 (octets : Octets 16) (scope : UInt32)
  deriving DecidableEq, Repr

namespace Address

def family : Address → Family
  | .unspecified => .unspecified
  | .v4 _ => .ipv4
  | .v6 _ _ => .ipv6

def octets : Address → List UInt8
  | .unspecified => []
  | .v4 octets => octets.toList
  | .v6 octets _ => octets.toList

def scope : Address → UInt32
  | .v6 _ scope => scope
  | _ => 0

/-- Sixteen octets for any family: an IPv4 address fills the last four, and what no address fills
is zero. -/
def buffer : Address → Octets 16
  | .unspecified => Vector.replicate 16 0
  | .v4 octets => Vector.append (Vector.replicate 12 0) octets
  | .v6 octets _ => octets

def lastFour (a : Address) : Octets 4 :=
  a.buffer.lastFour

/-- Twelve zero octets, then a number above one. -/
def isV4CompatibleForm (octets : Octets 16) : Bool :=
  (octets.toList.take 12).all (· = 0) &&
    1 < (octets.toList.drop 12).foldl (fun value b => value * 256 + b.toNat) 0

/-- An address that IPv4 can express: all but IPv6 ones outside the compatible form. -/
def isV4Compatible : Address → Bool
  | .unspecified => true
  | .v4 _ => true
  | .v6 octets _ => isV4CompatibleForm octets

def unscoped : Address → Address
  | .v6 octets _ => .v6 octets 0
  | a => a

/-- What equality and hashing look at: buffer, family and scope. -/
abbrev Identity := Octets 16 × Family × UInt32

def identity (a : Address) : Identity :=
  (a.buffer, a.family, a.scope)

end Address

structure Layout where
  buffer : Octets 16
  family : Family
  scope : UInt32
  v4Compatible : Bool
  deriving DecidableEq, Repr

namespace Address

def layout (a : Address) : Layout where
  buffer := a.buffer
  family := a.family
  scope := a.scope
  v4Compatible := a.isV4Compatible

end Address

namespace Layout

/-- Equality of flat values leaves the mark out. -/
def Same (l m : Layout) : Prop :=
  l.buffer = m.buffer ∧ l.family = m.family ∧ l.scope = m.scope

instance (l m : Layout) : Decidable (l.Same m) :=
  inferInstanceAs (Decidable (_ ∧ _ ∧ _))

def Canonical (l : Layout) : Prop :=
  match l.family with
  | .unspecified => (∀ b ∈ l.buffer.toList, b = 0) ∧ l.scope = 0 ∧ l.v4Compatible = true
  | .ipv4 => (∀ b ∈ l.buffer.toList.take 12, b = 0) ∧ l.scope = 0 ∧ l.v4Compatible = true
  | .ipv6 => l.v4Compatible = Address.isV4CompatibleForm l.buffer

end Layout

end HostNet
