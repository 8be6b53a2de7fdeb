import HostNet.Binding
import HostNet.Proofs.Network.Netmask
import HostNet.Proofs.Text.Numeral

/-!
The network of a binding. It is there exactly when the netmask is for the family of the address and
is ones, then zeros; it is then the block that address and netmask name, and its length is what the
text of the binding shows.
-/

namespace HostNet

/-- How many bits the addresses of a family have. -/
def Family.width : Family → Nat
  | .unspecified => 0
  | .ipv4 => 32
  | .ipv6 => 128

def StandardAddress.octets : StandardAddress → List UInt8
  | .v4 octets => octets.toList
  | .v6 octets => octets.toList

/-- A netmask for the addresses of a family: so many ones, then zeros only. -/
structure Address.IsMask (mask : Address) (family : Family) (ones : Nat) : Prop where
  known : family ≠ .unspecified
  family_eq : mask.family = family
  within : ones ≤ family.width
  bits : Octets.bits mask.octets =
    List.replicate ones true ++ List.replicate (family.width - ones) false

namespace Network

variable {n ones : Nat} {unicast mask : Address} {net : Network}

/-- The block that an address and a netmask name. -/
structure IsBlock (net : Network) (unicast mask : Address) : Prop where
  masked : mask.IsMask unicast.family net.prefixLength
  address : net.address.octets = unicast.octets
  truncated : net.truncated.address.octets =
    List.zipWith (· &&& ·) unicast.octets mask.octets
  length_truncated : net.truncated.prefixLength = net.prefixLength

theorem prefixLength_truncated (net : Network) :
    net.truncated.prefixLength = net.prefixLength := by
  cases net <;> simp only [truncated, prefixLength]

theorem isMask_v4 {mask : Octets 4} :
    (Address.v4 mask).IsMask .ipv4 ones ↔ Netmask.length? mask.toList = some ones := by
  rw [Netmask.length?_eq_some_iff, Vector.length_toList]
  constructor
  · intro masked
    exact ⟨masked.within, masked.bits⟩
  · rintro ⟨within, bits⟩
    exact ⟨by decide, rfl, within, bits⟩

theorem isMask_v6 {mask : Octets 16} {scope : UInt32} :
    (Address.v6 mask scope).IsMask .ipv6 ones ↔ Netmask.length? mask.toList = some ones := by
  rw [Netmask.length?_eq_some_iff, Vector.length_toList]
  constructor
  · intro masked
    exact ⟨masked.within, masked.bits⟩
  · rintro ⟨within, bits⟩
    exact ⟨by decide, rfl, within, bits⟩

theorem toList_cleared {mask : Octets n} (octets : Octets n)
    (found : Netmask.length? mask.toList = some ones) :
    (cleared octets ones).toList = List.zipWith (· &&& ·) octets.toList mask.toList := by
  obtain ⟨within, bits⟩ := Netmask.length?_eq_some_iff.mp found
  have same := (Netmask.octets_eq_iff within).mpr bits
  rw [Vector.length_toList] at same
  rw [cleared, same, Vector.toList_ofFn]
  apply List.ext_getElem
  · simp
  · intro i first second
    simp

theorem isBlock_v4 {octets mask : Octets 4} (found : Netmask.length? mask.toList = some ones) :
    (Network.v4 octets ones).IsBlock (.v4 octets) (.v4 mask) :=
  ⟨isMask_v4.mpr found, rfl, toList_cleared octets found, prefixLength_truncated _⟩

theorem isBlock_v6 {octets mask : Octets 16} {scope other : UInt32}
    (found : Netmask.length? mask.toList = some ones) :
    (Network.v6 octets ones).IsBlock (.v6 octets scope) (.v6 mask other) :=
  ⟨isMask_v6.mpr found, rfl, toList_cleared octets found, prefixLength_truncated _⟩

theorem isBlock_of_ofMask? (found : ofMask? unicast mask = some net) :
    net.IsBlock unicast mask := by
  unfold ofMask? at found
  split at found
  · obtain ⟨ones, length, rfl⟩ := Option.map_eq_some_iff.mp found
    exact isBlock_v4 length
  · obtain ⟨ones, length, rfl⟩ := Option.map_eq_some_iff.mp found
    exact isBlock_v6 length
  · cases found

/-- A netmask for the address's family makes a block with its number of ones. -/
theorem exists_ofMask? (masked : mask.IsMask unicast.family ones) :
    ∃ net, ofMask? unicast mask = some net ∧ net.prefixLength = ones := by
  have family := masked.family_eq
  cases unicast with
  | unspecified => exact absurd rfl masked.known
  | v4 octets =>
    cases mask with
    | v4 mask => exact ⟨.v4 octets ones, by rw [ofMask?, isMask_v4.mp masked]; rfl, rfl⟩
    | unspecified => cases family
    | v6 => cases family
  | v6 octets scope =>
    cases mask with
    | v6 mask => exact ⟨.v6 octets ones, by rw [ofMask?, isMask_v6.mp masked]; rfl, rfl⟩
    | unspecified => cases family
    | v4 => cases family

theorem eq_of_address {other : Network} (address : net.address.octets = other.address.octets)
    (length : net.prefixLength = other.prefixLength) : net = other := by
  have sizes := congrArg List.length address
  cases net with
  | v4 octets ones =>
    cases other with
    | v4 others more =>
      rw [Vector.toList_inj.mp address]
      exact congrArg _ length
    | v6 => simp [Network.address, StandardAddress.octets] at sizes
  | v6 octets ones =>
    cases other with
    | v4 => simp [Network.address, StandardAddress.octets] at sizes
    | v6 others more =>
      rw [Vector.toList_inj.mp address]
      exact congrArg _ length

theorem ofMask?_eq_some_iff : ofMask? unicast mask = some net ↔ net.IsBlock unicast mask := by
  constructor
  · exact isBlock_of_ofMask?
  · intro block
    obtain ⟨other, found, length⟩ := exists_ofMask? block.masked
    have address := (isBlock_of_ofMask? found).address
    rw [found, eq_of_address (address.trans block.address.symm) length]

theorem ofMask?_unscoped (unicast mask : Address) :
    ofMask? unicast.unscoped mask.unscoped = ofMask? unicast mask := by
  cases unicast <;> cases mask <;> rfl

end Network

namespace Binding

variable {b : Binding}

theorem network_eq_some_iff {net : Network} :
    b.network = some net ↔ ∃ mask, b.netmask = some mask ∧ net.IsBlock b.unicast mask := by
  rw [network, Option.bind_eq_some_iff]
  simp only [Network.ofMask?_eq_some_iff]

theorem network_isSome_iff :
    b.network.isSome = true ↔
      ∃ mask ones, b.netmask = some mask ∧ mask.IsMask b.unicast.family ones := by
  rw [Option.isSome_iff_exists]
  constructor
  · rintro ⟨net, found⟩
    obtain ⟨mask, given, block⟩ := network_eq_some_iff.mp found
    exact ⟨mask, net.prefixLength, given, block.masked⟩
  · rintro ⟨mask, ones, given, masked⟩
    obtain ⟨net, found, -⟩ := Network.exists_ofMask? masked
    exact ⟨net, by rw [network, given]; exact found⟩

/-- What the text shows after the address: the length of the network, if there is one. -/
def lengthPart (b : Binding) : List Char :=
  match b.network with
  | some net => '/' :: Numeral.decimal net.prefixLength
  | none => []

def broadcastPart (b : Binding) : List Char :=
  match b.broadcast with
  | some a => " brd ".toList ++ a.text.toList
  | none => []

theorem toList_text (b : Binding) :
    b.text.toList = b.unicast.text.toList ++ (b.lengthPart ++ b.broadcastPart) := by
  unfold text lengthPart broadcastPart
  cases b.network <;> cases b.broadcast <;> simp

theorem broadcastPart_head (b : Binding) : b.broadcastPart = [] ∨ b.broadcastPart.head? = some ' ' := by
  unfold broadcastPart
  cases b.broadcast with
  | none => exact .inl rfl
  | some a => exact .inr rfl

/-- A slash and a length stand after the address, and then the text ends or goes on with a blank. -/
def ShowsLength (b : Binding) (length : Nat) : Prop :=
  ∃ rest, (rest = [] ∨ rest.head? = some ' ') ∧
    b.text.toList = b.unicast.text.toList ++ '/' :: (Numeral.decimal length ++ rest)

theorem not_digit_of_blank {rest : List Char} (blank : rest = [] ∨ rest.head? = some ' ') :
    ∀ c ∈ rest.head?, c.isDigit = false := by
  intro c first
  rcases blank with rfl | blank
  · cases first
  · rw [blank] at first
    cases first
    rfl

theorem lengthPart_of_slash {rest : List Char}
    (shown : b.text.toList = b.unicast.text.toList ++ '/' :: rest) :
    ∃ net, b.network = some net ∧ Numeral.decimal net.prefixLength ++ b.broadcastPart = rest := by
  rw [toList_text] at shown
  have behind := List.append_cancel_left shown
  unfold lengthPart at behind
  split at behind
  · rename_i net found
    exact ⟨net, found, List.tail_eq_of_cons_eq behind⟩
  · rw [List.nil_append] at behind
    rcases b.broadcastPart_head with none | blank
    · rw [none] at behind
      cases behind
    · rw [behind] at blank
      cases blank

theorem text_of_network {net : Network} (found : b.network = some net) :
    b.text.toList = b.unicast.text.toList ++
      '/' :: (Numeral.decimal net.prefixLength ++ b.broadcastPart) := by
  rw [toList_text]
  simp only [lengthPart, found, List.cons_append]

theorem slash_follows_iff :
    (∃ rest, b.text.toList = b.unicast.text.toList ++ '/' :: rest) ↔ b.network.isSome = true := by
  rw [Option.isSome_iff_exists]
  constructor
  · rintro ⟨rest, shown⟩
    obtain ⟨net, found, -⟩ := lengthPart_of_slash shown
    exact ⟨net, found⟩
  · rintro ⟨net, found⟩
    exact ⟨_, text_of_network found⟩

theorem showsLength_iff {length : Nat} :
    b.ShowsLength length ↔ ∃ net, b.network = some net ∧ net.prefixLength = length := by
  constructor
  · rintro ⟨rest, blank, shown⟩
    obtain ⟨net, found, same⟩ := lengthPart_of_slash shown
    have numbers := Numeral.decimal_append_inj (not_digit_of_blank b.broadcastPart_head)
      (not_digit_of_blank blank) same
    exact ⟨net, found, numbers.1⟩
  · rintro ⟨net, found, rfl⟩
    exact ⟨b.broadcastPart, b.broadcastPart_head, text_of_network found⟩

/-- There is a network exactly for a netmask of the address's family that is ones, then zeros. It is
the block that address and netmask name, whatever their scopes, and the text shows its length. -/
theorem network_is_block (b : Binding) :
    (b.network.isSome = true ↔
      ∃ mask ones, b.netmask = some mask ∧ mask.IsMask b.unicast.family ones) ∧
    (∀ net, b.network = some net ↔ ∃ mask, b.netmask = some mask ∧ net.IsBlock b.unicast mask) ∧
    network ⟨b.unicast.unscoped, b.netmask.map (·.unscoped), b.broadcast⟩ = b.network ∧
    ((∃ rest, b.text.toList = b.unicast.text.toList ++ '/' :: rest) ↔ b.network.isSome = true) ∧
    ∀ length, b.ShowsLength length ↔ ∃ net, b.network = some net ∧ net.prefixLength = length := by
  refine ⟨network_isSome_iff, fun _ => network_eq_some_iff, ?_, slash_follows_iff,
    fun _ => showsLength_iff⟩
  obtain ⟨unicast, netmask, broadcast⟩ := b
  cases netmask with
  | none => rfl
  | some mask => exact Network.ofMask?_unscoped unicast mask

/-- With a hole among the ones there is no network. -/
example : network ⟨.v4 #v[10, 1, 2, 3], some (.v4 #v[255, 0, 255, 0]), none⟩ = none := by
  decide

end Binding

end HostNet
