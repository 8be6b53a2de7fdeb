import HostNet.Address.Basic

/-!
Classes of addresses: wildcard, loopback, unicast classes by reach, and multicast by scope. An
undefined address is in none of them, and the scope index has no say.
-/

namespace HostNet.Address

def isAnyLocal : Address → Bool
  | .unspecified => false
  | .v4 o => o.toList.all (· = 0)
  | .v6 o _ => o.toList.all (· = 0)

def isLoopback : Address → Bool
  | .unspecified => false
  | .v4 o => o[0] = 127
  | .v6 o _ => (o.toList.take 15).all (· = 0) && o[15] = 1

def isLinkLocal : Address → Bool
  | .unspecified => false
  | .v4 o => o[0] = 169 && o[1] = 254
  | .v6 o _ => o[0] = 0xfe && o[1] &&& 0xc0 = 0x80

/-- Unicast within one site. Of the IPv4 block 172.16/12 only the first /16 counts. -/
def isSiteLocal : Address → Bool
  | .unspecified => false
  | .v4 o => o[0] = 10 || (o[0] = 172 && o[1] = 16) || (o[0] = 192 && o[1] = 168)
  | .v6 o _ => o[0] = 0xfe && o[1] &&& 0xc0 = 0xc0

def isMulticast : Address → Bool
  | .unspecified => false
  | .v4 o => o[0] &&& 0xf0 = 0xe0
  | .v6 o _ => o[0] = 0xff

inductive Reach where
  | global
  | node
  | link
  | site
  | organization
  deriving DecidableEq, Repr

/-- The value of an IPv6 multicast address's scope field that stands for a reach. -/
def Reach.nibble : Reach → UInt8
  | .global => 0xe
  | .node => 0x1
  | .link => 0x2
  | .site => 0x5
  | .organization => 0x8

/-- The block of IPv4 multicast addresses with a reach; no block is confined to a node. -/
def Reach.holdsV4 (o : Octets 4) : Reach → Bool
  | .global => o[0] ≥ 224 && o[0] ≤ 238 && !(o[0] = 224 && o[1] = 0 && o[2] = 0)
  | .node => false
  | .link => o[0] = 224 && o[1] = 0 && o[2] = 0
  | .site => o[0] = 239 && o[1] = 255
  | .organization => o[0] = 239 && o[1] ≥ 192 && o[1] ≤ 195

def isMulticastOf (reach : Reach) : Address → Bool
  | .unspecified => false
  | .v4 o => reach.holdsV4 o
  | .v6 o _ => o[0] = 0xff && o[1] &&& 0x0f = reach.nibble

end HostNet.Address
