import HostNet.Address.Class
import HostNet.Binary.Value
import HostNet.Json.Value
import HostNet.Proofs.Address.Layout

/-!
The flat values that addresses come with, whichever way they are obtained. All of them are canonical,
and every canonical value can be obtained; so equality, which leaves the mark out, tells apart
whatever anything else tells apart.
-/

namespace HostNet

def Binding.addresses (b : Binding) : List Address :=
  b.unicast :: (b.netmask.toList ++ b.broadcast.toList)

def Interface.addresses (i : Interface) : List Address :=
  i.bindings.flatMap (·.addresses)

namespace Layout

variable {l m : Layout}

/-- The ways to come by an address: from text, from octets in memory, from the addresses and socket
addresses of other software, from encoded values and from an enumeration of interfaces. -/
inductive Obtained : Layout → Prop where
  | unspecified : Obtained Address.unspecified.layout
  | parsed {input : String} {a : Address} (read : Address.parse input = .ok a) : Obtained a.layout
  | parsedScoped {input : String} {scope : UInt32} {a : Address}
      (read : Address.parseScoped input scope = .ok a) : Obtained a.layout
  | octetsV4 (octets : Octets 4) : Obtained (Address.v4 octets).layout
  | octetsV6 (octets : Octets 16) (scope : UInt32) : Obtained (Address.v6 octets scope).layout
  | memory {octets : List UInt8} {scope : UInt32} {a : Address}
      (read : Address.ofMemory octets scope = .ok a) : Obtained a.layout
  | rawV4 (word : UInt32) : Obtained (Address.ofRawV4 word).layout
  | rawV6 (octets : Octets 16) (scope : UInt32) : Obtained (Address.ofRawV6 octets scope).layout
  | standard (s : StandardAddress) : Obtained (Address.ofStandard s).layout
  | socket (s : StandardSocket) : Obtained (Endpoint.ofStandardSocket s).address.layout
  | json {text : String} {a : Address} (read : Json.Reader.run Address.reader text = .ok a) :
      Obtained a.layout
  | jsonEndpoint {text : String} {e : Endpoint}
      (read : Json.Reader.run Endpoint.reader text = .ok e) : Obtained e.address.layout
  | jsonBinding {text : String} {b : Binding} {a : Address}
      (read : Json.Reader.run Binding.reader text = .ok b) (held : a ∈ b.addresses) :
      Obtained a.layout
  | jsonInterface {text : String} {i : Interface} {a : Address}
      (read : Json.Reader.run Interface.reader text = .ok i) (held : a ∈ i.addresses) :
      Obtained a.layout
  | jsonInterfaces {text : String} {is : List Interface} {i : Interface} {a : Address}
      (read : Json.Reader.run (Json.Reader.array Interface.reader) text = .ok is)
      (member : i ∈ is) (held : a ∈ i.addresses) : Obtained a.layout
  | binary {octets : List UInt8} {a : Address}
      (read : Binary.Reader.run Address.binaryReader octets = .ok a) : Obtained a.layout
  | binaryEndpoint {octets : List UInt8} {e : Endpoint}
      (read : Binary.Reader.run Endpoint.binaryReader octets = .ok e) : Obtained e.address.layout
  | binaryBinding {octets : List UInt8} {b : Binding} {a : Address}
      (read : Binary.Reader.run Binding.binaryReader octets = .ok b) (held : a ∈ b.addresses) :
      Obtained a.layout
  | binaryInterface {octets : List UInt8} {i : Interface} {a : Address}
      (read : Binary.Reader.run Interface.binaryReader octets = .ok i) (held : a ∈ i.addresses) :
      Obtained a.layout
  | binaryInterfaces {octets : List UInt8} {is : List Interface} {i : Interface} {a : Address}
      (read : Binary.Reader.run (Binary.Reader.sequence Interface.binaryReader) octets = .ok is)
      (member : i ∈ is) (held : a ∈ i.addresses) : Obtained a.layout
  | discovered {s : Source} {k : Kernel} {entries : List Entry} {e : Entry} {a : Address}
      (ended : (s.enumerate k).outcome = .ok entries) (found : e ∈ entries)
      (held : a ∈ e.binding.addresses) : Obtained a.layout

theorem Obtained.canonical (obtained : Obtained l) : l.Canonical := by
  cases obtained <;> exact canonical_layout _

theorem obtained_iff : Obtained l ↔ l.Canonical := by
  constructor
  · exact Obtained.canonical
  · intro canonical
    obtain ⟨a, rfl⟩ := canonical_iff.mp canonical
    cases a with
    | unspecified => exact .unspecified
    | v4 octets => exact .octetsV4 octets
    | v6 octets scope => exact .octetsV6 octets scope

/-- No question about addresses tells the two apart. -/
structure Alike (l m : Layout) : Prop where
  family : l.family = m.family
  v4Compatible : l.v4Compatible = m.v4Compatible
  anyLocal : l.address.isAnyLocal = m.address.isAnyLocal
  loopback : l.address.isLoopback = m.address.isLoopback
  linkLocal : l.address.isLinkLocal = m.address.isLinkLocal
  siteLocal : l.address.isSiteLocal = m.address.isSiteLocal
  multicast : l.address.isMulticast = m.address.isMulticast
  multicastOf : ∀ reach, l.address.isMulticastOf reach = m.address.isMulticastOf reach
  text : l.address.text = m.address.text
  standard : l.address.standard? = m.address.standard?
  raw : l.buffer = m.buffer
  tokens : l.address.tokens = m.address.tokens
  binary : l.address.binary = m.address.binary

/-- Obtained values keep the layout of their family, and equality of the fields that are compared
and hashed is equality in all that can be asked. -/
theorem obtained_values_canonical (first : Obtained l) (second : Obtained m) :
    (l.family = .ipv4 →
      (∀ b ∈ l.buffer.toList.take 12, b = 0) ∧ l.scope = 0 ∧ l.v4Compatible = true) ∧
    (l.family = .unspecified → (∀ b ∈ l.buffer.toList, b = 0) ∧ l.scope = 0) ∧
    (l.family = .ipv6 → (l.v4Compatible = true ↔
      (∀ b ∈ l.buffer.toList.take 12, b = 0) ∧ 1 < Octets.bigEndian (l.buffer.toList.drop 12))) ∧
    (l.Same m ↔ l.identity = m.identity) ∧
    (l.Same m ↔ l.octets = m.octets ∧ l.scope = m.scope) ∧
    (l.Same m → l = m ∧ l.Alike m) := by
  have canonical := first.canonical
  refine ⟨?_, ?_, ?_, same_iff_identity, canonical.same_iff_octets second.canonical, ?_⟩
  · intro family
    rwa [Canonical, family] at canonical
  · intro family
    rw [Canonical, family] at canonical
    exact ⟨canonical.1, canonical.2.1⟩
  · intro family
    rw [Canonical, family] at canonical
    change l.v4Compatible = _ at canonical
    rw [canonical, Address.isV4CompatibleForm_iff]
  · intro same
    obtain rfl := canonical.eq_of_same second.canonical same
    exact ⟨rfl, rfl, rfl, rfl, rfl, rfl, rfl, rfl, fun _ => rfl, rfl, rfl, rfl, rfl, rfl⟩

/-- The compatible form of 10.9.8.7 with a scope. -/
def compatible : Address :=
  .v6 #v[0, 0, 0, 0, 0, 0, 0, 0, 0, 0, 0, 0, 10, 9, 8, 7] 3

/-- One value is read from text, the other from encoded octets, whose scope is dropped. -/
theorem obtained_values_canonical_compatible :
    Obtained compatible.layout ∧ Obtained (Address.v4 #v[10, 9, 8, 7]).layout ∧
    (compatible.layout.v4Compatible = true ↔
      (∀ b ∈ compatible.layout.buffer.toList.take 12, b = 0) ∧
        1 < Octets.bigEndian (compatible.layout.buffer.toList.drop 12)) ∧
    (compatible.layout.Same (Address.v4 #v[10, 9, 8, 7]).layout ↔
      compatible.layout.octets = (Address.v4 #v[10, 9, 8, 7]).layout.octets ∧
        compatible.layout.scope = (Address.v4 #v[10, 9, 8, 7]).layout.scope) := by
  have written : Address.parseScoped "::10.9.8.7" 3 = .ok compatible := rfl
  have stored : Binary.Reader.run Address.binaryReader
      [4, 0, 0, 0, 0, 0, 0, 0, 10, 9, 8, 7, 3, 0, 0, 0] = .ok (.v4 #v[10, 9, 8, 7]) := rfl
  obtain ⟨-, -, mark, -, octets, -⟩ :=
    obtained_values_canonical (.parsedScoped written) (.binary stored)
  exact ⟨.parsedScoped written, .binary stored, mark rfl, octets⟩

end Layout

end HostNet
