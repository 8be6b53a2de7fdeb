import Mathlib.Data.List.Basic
import Mathlib.Data.List.TakeWhile
import HostNet.Proofs.Kernel.Configuring
import HostNet.Proofs.Kernel.GrowthSteady
import HostNet.Proofs.Kernel.Listing
import HostNet.Proofs.Text.Utf8

/-!
A kernel with a table of IPv4 bindings that it answers all calls from. Both ways to enumerate find
the bindings of the interfaces that are up, in the order of the table; the kernel's list may have
other nodes in between.
-/

namespace HostNet

open Run

namespace RawName

/-- Octets that a name keeps when it is read as text. -/
structure IsText (name : RawName) : Prop where
  free : 0 ∉ name
  valid : (Utf8.decode? name).isSome = true

theorem IsText.ofString_text {name : RawName} (isText : name.IsText) :
    Utf8.ofString name.text = name := by
  obtain ⟨s, valid⟩ := Option.isSome_iff_exists.mp isText.valid
  have whole : name.takeWhile (· ≠ 0) = name := by
    rw [List.takeWhile_eq_self_iff]
    intro octet member
    simpa using ne_of_mem_of_not_mem member isText.free
  rw [text, whole, Utf8.ofString_repair valid]

end RawName

namespace InterfaceFlags

theorem signExtend_setWidth_and (flags mask : BitVec 32) (low : mask.toNat < 0x8000) :
    (flags.setWidth 16).signExtend 32 &&& mask = flags &&& mask := by
  apply BitVec.eq_of_getLsbD_eq
  intro i _
  rw [BitVec.getLsbD_and, BitVec.getLsbD_and]
  by_cases inside : i < 15
  · have half : i < 16 := by omega
    have whole : i < 32 := by omega
    rw [BitVec.getLsbD_signExtend, if_pos half, BitVec.getLsbD_setWidth, decide_eq_true half,
      decide_eq_true whole, Bool.true_and, Bool.true_and]
  · have fifteen : 2 ^ 15 ≤ 2 ^ i := Nat.pow_le_pow_right (by omega) (by omega)
    have zero : mask.getLsbD i = false := by
      rw [BitVec.getLsbD, Nat.testBit_lt_two_pow (Nat.lt_of_lt_of_le low fifteen)]
    rw [zero, Bool.and_false, Bool.and_false]

/-- A request gives the low half of the flags; the low fifteen are the same in both widths. -/
theorem ofShort_and (flags mask : InterfaceFlags) (low : mask.toNat < 0x8000) :
    ofShort flags.toUInt16.toInt16 &&& mask = flags &&& mask := by
  apply UInt32.toBitVec_inj.mp
  rw [UInt32.toBitVec_and, UInt32.toBitVec_and]
  exact signExtend_setWidth_and flags.toBitVec mask.toBitVec low

theorem isUp_ofShort (flags : InterfaceFlags) :
    isUp (ofShort flags.toUInt16.toInt16) = flags.isUp := by
  rw [isUp, isUp, ofShort_and flags 1 (by decide)]

theorem broadcasts_ofShort (flags : InterfaceFlags) :
    broadcasts (ofShort flags.toUInt16.toInt16) = flags.broadcasts := by
  rw [broadcasts, broadcasts, ofShort_and flags 2 (by decide)]

end InterfaceFlags

theorem Slot.countable_iff {capacity : Nat} :
    countable capacity = true ↔ capacity < 53687092 := by
  rw [countable, decide_eq_true_iff, size]
  omega

/-- IPv4 bindings in their order, and what else there is to the interface of each name. -/
structure InterfaceTable where
  bindings : List (RawName × Octets 4)
  flags : RawName → InterfaceFlags
  netmask : RawName → SocketAddress
  broadcast : RawName → SocketAddress
  index : RawName → UInt32

namespace InterfaceTable

def node (t : InterfaceTable) (b : RawName × Octets 4) : Node :=
  ⟨b.1, t.flags b.1, some (.v4 b.2), some (t.netmask b.1), some (t.broadcast b.1)⟩

def slot (b : RawName × Octets 4) : Slot :=
  ⟨b.1, .v4 b.2⟩

def slots (t : InterfaceTable) : List Slot :=
  t.bindings.map slot

@[simp] theorem length_slots (t : InterfaceTable) : t.slots.length = t.bindings.length :=
  List.length_map slot

/-- The entry of a binding; there is none if its interface is down. -/
def found? (t : InterfaceTable) (b : RawName × Octets 4) : Option Entry :=
  if (t.flags b.1).isUp then
    some ⟨b.1.text, t.index b.1, .v4 b.2, (t.netmask b.1).unscoped?,
      if (t.flags b.1).broadcasts then (t.broadcast b.1).unscoped? else none⟩
  else none

def entries (t : InterfaceTable) : List Entry :=
  t.bindings.filterMap t.found?

/-- The kernel has these nodes in its list, among them those of the table in its order; and it gives
all other answers from the table. -/
structure HeldBy (t : InterfaceTable) (k : Kernel) (nodes : List Node) : Prop where
  names : ∀ b ∈ t.bindings, b.1.IsText
  list : k.list = .ok nodes
  listed : nodes.filter (·.isIpv4) = t.bindings.map t.node
  indexOf : ∀ round, ∀ b ∈ t.bindings, k.indexOf round b.1 = t.index b.1
  socket : k.socketFault = none
  configuration : ∀ attempt capacity, k.configuration attempt capacity =
    .ok ⟨t.slots.take capacity, (min t.bindings.length capacity * Slot.size : Nat)⟩
  flags : ∀ round, ∀ b ∈ t.bindings, k.flags round b.1 = .ok (t.flags b.1).toUInt16.toInt16
  netmask : ∀ round, ∀ b ∈ t.bindings, k.netmask round b.1 = .ok (t.netmask b.1)
  broadcast : ∀ round, ∀ b ∈ t.bindings, k.broadcast round b.1 = .ok (t.broadcast b.1)
  index : ∀ round, ∀ b ∈ t.bindings, k.index round b.1 = .ok (t.index b.1).toInt32

/-- The kernel that has these nodes in its list and answers from the table alone. -/
def kernel (t : InterfaceTable) (nodes : List Node) : Kernel where
  list := .ok nodes
  indexOf _ name := t.index name
  socketFault := none
  configuration _ capacity :=
    .ok ⟨t.slots.take capacity, (min t.bindings.length capacity * Slot.size : Nat)⟩
  flags _ name := .ok (t.flags name).toUInt16.toInt16
  netmask _ name := .ok (t.netmask name)
  broadcast _ name := .ok (t.broadcast name)
  index _ name := .ok (t.index name).toInt32

theorem heldBy_kernel {t : InterfaceTable} {nodes : List Node}
    (names : ∀ b ∈ t.bindings, b.1.IsText)
    (listed : nodes.filter (·.isIpv4) = t.bindings.map t.node) :
    t.HeldBy (t.kernel nodes) nodes where
  names := names
  list := rfl
  listed := listed
  indexOf _ _ _ := rfl
  socket := rfl
  configuration _ _ := rfl
  flags _ _ _ := rfl
  netmask _ _ _ := rfl
  broadcast _ _ _ := rfl
  index _ _ _ := rfl

namespace HeldBy

variable {t : InterfaceTable} {k : Kernel} {nodes : List Node} {b : RawName × Octets 4}

/-! ### The list -/

theorem indexFor_text (held : t.HeldBy k nodes) (member : b ∈ t.bindings) (round : Nat) :
    k.indexFor round b.1.text = t.index b.1 := by
  have isText := held.names b member
  rw [Kernel.indexFor, isText.ofString_text, if_neg isText.free, held.indexOf round b member]

theorem entryAt_node (held : t.HeldBy k nodes) (member : b ∈ t.bindings) (round : Nat) :
    k.entryAt round (t.node b) = t.found? b := by
  have name : (t.node b).name = b.1 := rfl
  have address : (t.node b).address? =
      if (t.flags b.1).isUp then .ok (.v4 b.2) else .error (.down b.1.text) := rfl
  rw [Kernel.entryAt, address, name, held.indexFor_text member round, found?]
  by_cases up : (t.flags b.1).isUp = true
  · rw [if_pos up, if_pos up]
    rfl
  · rw [if_neg up, if_neg up]
    rfl

theorem filter_entriesFrom (held : t.HeldBy k nodes) :
    (k.entriesFrom 0 nodes).filter (·.binding.isIpv4) = t.entries := by
  have steady : ∀ n ∈ nodes, n.isIpv4 = true →
      ∀ round, k.entryAt round n = k.entryAt 0 n := by
    intro n member kind round
    have listed : n ∈ t.bindings.map t.node :=
      held.listed ▸ List.mem_filter.mpr ⟨member, kind⟩
    obtain ⟨b, bound, rfl⟩ := List.mem_map.mp listed
    rw [held.entryAt_node bound, held.entryAt_node bound]
  rw [Kernel.filter_entriesFrom steady, held.listed, List.filterMap_map]
  exact List.filterMap_congr fun b member => held.entryAt_node member 0

/-! ### The configuration calls -/

theorem steady_offer (held : t.HeldBy k nodes) : Growth.Steady k.offer t.slots Slot.countable where
  answered := by
    intro attempt capacity room
    have reported : min t.bindings.length capacity * Slot.size / Slot.size =
        min t.bindings.length capacity := Nat.mul_div_cancel _ (by decide)
    rw [Kernel.offer, if_pos room, held.configuration, Growth.fitting, length_slots]
    simp only [Kernel.filling, Int.toNat_natCast, reported]
  refused := by
    intro attempt capacity full
    rw [Kernel.offer, full]
    rfl
  smaller := by
    intro capacity more le room
    rw [Slot.countable_iff] at room ⊢
    omega
  within := by
    intro capacity room
    rw [Slot.countable_iff] at room
    exact Nat.lt_trans room (by decide)

theorem outcome_slots (held : t.HeldBy k nodes) {initial : Nat}
    (settles : Growth.Settles Slot.countable t.bindings.length (Growth.firstCapacity initial)) :
    (k.slots initial).outcome = .ok ⟨t.slots.length, Slot.blank, t.slots⟩ :=
  Growth.run_of_settles held.steady_offer (t.length_slots.symm ▸ settles)

theorem outcome_inspect (held : t.HeldBy k nodes) (member : b ∈ t.bindings) (round : Nat) :
    (k.inspect round (slot b)).outcome = .ok (t.found? b) := by
  simp only [Kernel.inspect, slot, held.flags round b member, held.netmask round b member,
    held.broadcast round b member, held.index round b member, found?]
  rw [outcome_bind_of_ok (Kernel.outcome_request _ _ _), InterfaceFlags.isUp_ofShort,
    InterfaceFlags.broadcasts_ofShort]
  by_cases up : (t.flags b.1).isUp = true
  · rw [if_pos up, if_pos up, outcome_bind_of_ok (Kernel.outcome_request _ _ _)]
    by_cases broadcasts : (t.flags b.1).broadcasts = true
    · rw [if_pos broadcasts, if_pos broadcasts, outcome_bind_of_ok (Kernel.outcome_request _ _ _),
        outcome_bind_of_ok (outcome_pure _), outcome_bind_of_ok (Kernel.outcome_request _ _ _),
        outcome_pure, UInt32.toUInt32_toInt32]
    · rw [if_neg broadcasts, if_neg broadcasts, outcome_bind_of_ok (outcome_pure _),
        outcome_bind_of_ok (Kernel.outcome_request _ _ _), outcome_pure, UInt32.toUInt32_toInt32]
  · rw [if_neg up, if_neg up]
    rfl

theorem outcome_inspectAll (held : t.HeldBy k nodes) {bindings : List (RawName × Octets 4)}
    (bound : ∀ b ∈ bindings, b ∈ t.bindings) (round : Nat) :
    (k.inspectAll round (bindings.map slot)).outcome = .ok (bindings.filterMap t.found?) := by
  induction bindings generalizing round with
  | nil => rfl
  | cons b bindings ih =>
    have first := held.outcome_inspect (bound b List.mem_cons_self) round
    have rest := ih (fun c member => bound c (List.mem_cons_of_mem b member)) (round + 1)
    rw [List.map_cons, Kernel.inspectAll, outcome_bind_of_ok first, outcome_bind_of_ok rest]
    cases found : t.found? b with
    | none => rw [List.filterMap_cons_none found]; rfl
    | some e => rw [List.filterMap_cons_some found]; rfl

theorem outcome_entriesByConfiguration (held : t.HeldBy k nodes) {initial : Nat}
    (settles : Growth.Settles Slot.countable t.bindings.length (Growth.firstCapacity initial)) :
    (k.entriesByConfiguration initial).outcome = .ok t.entries := by
  refine Kernel.outcome_entriesByConfiguration held.socket (held.outcome_slots settles) ?_
  rw [Buffer.toList_of_size]
  exact held.outcome_inspectAll (fun _ member => member) 0

/-- The one thing that can go wrong: room for the buffer runs out. -/
theorem outcome_entriesByConfiguration_overflow (held : t.HeldBy k nodes) {initial : Nat}
    (never : ¬ Growth.Settles Slot.countable t.bindings.length (Growth.firstCapacity initial)) :
    (k.entriesByConfiguration initial).outcome =
      .error (.discovery "SIOCGIFCONF" Growth.overflow) :=
  Kernel.outcome_entriesByConfiguration_of_error held.socket
    (Growth.run_of_not_settles held.steady_offer (t.length_slots.symm ▸ never))

end HeldBy

end InterfaceTable

end HostNet
