import HostNet.Proofs.Kernel.NamedIndexes

/-!
Where an entry's broadcast address is from. Of an interface that can broadcast, what stands in the
slot beside the address is taken for it, whatever families the two have; beside an IPv6 address that
is the address of a peer.
-/

namespace HostNet

/-- An address that may stand beside the unicast one as its broadcast address, or is not read. -/
def SocketAddress.Suits (unicast : Address) : SocketAddress → Prop
  | .v4 _ => unicast.family = .ipv4
  | .v6 _ _ => False
  | .foreign _ => True

namespace Binding

/-- A broadcast address is IPv4 and belongs to an IPv4 address. -/
def BroadcastIpv4 (b : Binding) : Prop :=
  ∀ a, b.broadcast = some a → b.unicast.family = .ipv4 ∧ a.family = .ipv4

theorem broadcastIpv4_of_none {b : Binding} (absent : b.broadcast = none) : b.BroadcastIpv4 := by
  intro a given
  rw [absent] at given
  cases given

theorem broadcastIpv4_iff {b : Binding} {s : SocketAddress} (taken : b.broadcast = s.unscoped?) :
    b.BroadcastIpv4 ↔ s.Suits b.unicast := by
  rw [BroadcastIpv4, taken]
  cases s with
  | v4 octets =>
    constructor
    · intro ipv4
      exact (ipv4 _ rfl).1
    · rintro suits a known
      cases known
      exact ⟨suits, rfl⟩
  | v6 octets scope =>
    constructor
    · intro ipv4
      cases (ipv4 _ rfl).2
    · exact False.elim
  | foreign family => exact iff_of_true nofun True.intro

end Binding

/-- What stands in the slot for the broadcast address of a node is none or suits the node's address,
unless the interface cannot broadcast. -/
def Node.SlotSuits (n : Node) : Prop :=
  n.flags.broadcasts = true → ∀ s unicast, n.broadcast = some s →
    n.address.bind (·.address?) = some unicast → s.Suits unicast

namespace Kernel

variable {k : Kernel} {nodes : List Node} {entries : List Entry} {initial : Nat} {e : Entry}

/-- The answer about the broadcast address of a buffer's slot suits its address, if it is asked for
at all. -/
def SlotSuits (k : Kernel) (v : Slot × Nat) : Prop :=
  ∀ octets flags s, v.1.address = .v4 octets → k.flags v.2 v.1.name = .ok flags →
    (InterfaceFlags.ofShort flags).isUp = true → (InterfaceFlags.ofShort flags).broadcasts = true →
    k.broadcast v.2 v.1.name = .ok s → s.Suits (.v4 octets)

theorem forall_mem_iff {α β : Type} {R : α → β → Prop} {P : α → Prop} {Q : β → Prop} {as : List α}
    {bs : List β} (paired : List.Forall₂ R as bs) (same : ∀ a b, R a b → (P a ↔ Q b)) :
    (∀ a ∈ as, P a) ↔ ∀ b ∈ bs, Q b := by
  induction paired with
  | nil => simp
  | cons first _ ih => rw [List.forall_mem_cons, List.forall_mem_cons, same _ _ first, ih]

/-! ### Through the list -/

theorem slotSuits_iff_of_reports {v : Node × Nat} (reports : k.Reports v e) :
    v.1.SlotSuits ↔ e.binding.BroadcastIpv4 := by
  have bound : e.binding.broadcast =
      if v.1.flags.broadcasts then v.1.broadcast.bind (·.unscoped?) else none := by
    rw [reports.binding, Node.binding]
  simp only [Node.SlotSuits, reports.address, Option.some.injEq]
  by_cases capable : v.1.flags.broadcasts = true
  · rw [if_pos capable] at bound
    cases slot : v.1.broadcast with
    | none =>
      rw [slot] at bound
      simp [Binding.broadcastIpv4_of_none bound]
    | some s =>
      rw [slot] at bound
      simp [capable, Binding.broadcastIpv4_iff bound]
  · rw [if_neg capable] at bound
    simp [capable, Binding.broadcastIpv4_of_none bound]

theorem slotSuits_iff_of_list (k : Kernel) (nodes : List Node) :
    (∀ n ∈ reported nodes, n.SlotSuits) ↔
      ∀ e ∈ k.entriesFrom 0 nodes, e.binding.BroadcastIpv4 := by
  rw [reported_eq, List.forall_mem_map]
  exact forall_mem_iff (entriesFrom_report k 0 nodes) fun v e reports =>
    slotSuits_iff_of_reports reports

theorem exists_list_of_ok (done : k.entriesByList.outcome = .ok entries) :
    ∃ nodes, k.list = .ok nodes ∧ k.entriesFrom 0 nodes = entries := by
  cases list : k.list with
  | error fault =>
    rw [(entriesByList_of_error list).2] at done
    cases done
  | ok nodes => exact ⟨nodes, rfl, Except.ok.inj ((outcome_entriesByList list).symm.trans done)⟩

/-! ### Through configuration calls -/

theorem slotSuits_iff_of_inspected {v : Slot × Nat} {inspection : Inspection}
    (inspected : k.Inspected v.2 v.1 inspection) :
    k.SlotSuits v ↔ ∀ e, inspection.entry = some e → e.binding.BroadcastIpv4 := by
  -- Each answer is what the slot was looked into with, so only one case leaves something to compare.
  cases inspected with
  | notIpv4 other => exact iff_of_true (fun octets _ _ address => (other octets address).elim) nofun
  | down _ answered off =>
    refine iff_of_true (fun octets flags s _ given up => ?_) nofun
    cases answered.symm.trans given
    rw [off] at up
    cases up
  | up _ answered _ _ silent _ =>
    refine iff_of_true (fun octets flags s _ given _ broadcasts => ?_) ?_
    · cases answered.symm.trans given
      rw [silent] at broadcasts
      cases broadcasts
    · rintro e ⟨⟩
      exact Binding.broadcastIpv4_of_none rfl
  | @broadcasting octets flags netmask broadcast _ address answered up _ broadcasts reached _ =>
    have compared : Binding.BroadcastIpv4 ⟨.v4 octets, netmask.unscoped?, broadcast.unscoped?⟩ ↔
        broadcast.Suits (.v4 octets) := Binding.broadcastIpv4_iff rfl
    constructor
    · rintro suits e ⟨⟩
      exact compared.mpr (suits octets flags broadcast address answered up broadcasts reached)
    · intro ipv4 octets' flags' s address' _ _ _ given
      cases address.symm.trans address'
      cases reached.symm.trans given
      exact compared.mp (ipv4 _ rfl)

theorem slotSuits_iff_of_configuration {buffer : Buffer Slot}
    (done : (k.entriesByConfiguration initial).outcome = .ok entries)
    (grown : (k.slots initial).outcome = .ok buffer) :
    (∀ v ∈ buffer.toList.zipIdx, k.SlotSuits v) ↔ ∀ e ∈ entries, e.binding.BroadcastIpv4 := by
  obtain ⟨-, buffer', inspections, enumerates⟩ := enumerates_of_ok done
  obtain rfl : buffer' = buffer := Except.ok.inj (enumerates.grown.symm.trans grown)
  rw [forall_mem_iff enumerates.inspected fun v inspection => slotSuits_iff_of_inspected,
    enumerates.entries]
  simp only [List.mem_filterMap]
  exact ⟨fun all e ⟨inspection, member, given⟩ => all inspection member e given,
    fun all inspection member e given => all e ⟨inspection, member, given⟩⟩

end Kernel

namespace Source

/-- The entry is of an interface whose flags say that it can broadcast. -/
def CanBroadcast (k : Kernel) (e : Entry) : Source → Prop
  | .list => ∃ nodes, k.list = .ok nodes ∧ ∃ n ∈ Kernel.reported nodes,
    e.name = n.name.text ∧ n.binding? = some e.binding ∧ n.flags.broadcasts = true
  | .configuration initial => ∃ buffer, (k.slots initial).outcome = .ok buffer ∧
    ∃ v ∈ buffer.toList.zipIdx, e.name = v.1.name.text ∧
      v.1.address.address? = some e.binding.unicast ∧
      ∃ flags, k.flags v.2 v.1.name = .ok flags ∧ (InterfaceFlags.ofShort flags).broadcasts = true

/-- All slots for broadcast addresses, as far as the source looks into them, have what they should. -/
def SlotsSuit (k : Kernel) : Source → Prop
  | .list => ∀ nodes, k.list = .ok nodes → ∀ n ∈ Kernel.reported nodes, n.SlotSuits
  | .configuration initial => ∀ entries, (k.entriesByConfiguration initial).outcome = .ok entries →
    ∀ buffer, (k.slots initial).outcome = .ok buffer → ∀ v ∈ buffer.toList.zipIdx, k.SlotSuits v

variable {k : Kernel} {entries : List Entry} {e : Entry} {a : Address} {s : Source}

theorem canBroadcast_of_mem (done : (s.enumerate k).outcome = .ok entries) (present : e ∈ entries)
    (given : e.binding.broadcast = some a) : s.CanBroadcast k e := by
  cases s with
  | list =>
    obtain ⟨nodes, list, rfl⟩ := Kernel.exists_list_of_ok done
    obtain ⟨n, reported, round, reports⟩ := Kernel.exists_reported_of_mem present
    refine ⟨nodes, list, n, reported, reports.name, Kernel.binding?_of_reports reports, ?_⟩
    rw [reports.binding, Node.binding] at given
    by_contra silent
    rw [if_neg silent] at given
    cases given
  | configuration initial =>
    obtain ⟨buffer, grown, v, visited, calls, inspected, -⟩ :=
      Kernel.inspected_of_mem done present
    refine ⟨buffer, grown, v, visited, ?_⟩
    cases inspected with
    | up => cases given
    | broadcasting address answered _ _ broadcasts _ _ =>
      refine ⟨rfl, ?_, _, answered, broadcasts⟩
      rw [address]
      rfl

theorem slotsSuit_iff (s : Source) (k : Kernel) :
    s.SlotsSuit k ↔
      ∀ entries, (s.enumerate k).outcome = .ok entries → ∀ e ∈ entries, e.binding.BroadcastIpv4 := by
  cases s with
  | list =>
    constructor
    · intro suit entries done
      obtain ⟨nodes, list, rfl⟩ := Kernel.exists_list_of_ok done
      exact (Kernel.slotSuits_iff_of_list k nodes).mp (suit nodes list)
    · intro ipv4 nodes list
      exact (Kernel.slotSuits_iff_of_list k nodes).mpr
        (ipv4 _ (Kernel.outcome_entriesByList list))
  | configuration initial =>
    refine forall_congr' fun entries => imp_congr_right fun done => ?_
    obtain ⟨-, buffer, inspections, enumerates⟩ := Kernel.enumerates_of_ok done
    constructor
    · intro suit
      exact (Kernel.slotSuits_iff_of_configuration done enumerates.grown).mp
        (suit buffer enumerates.grown)
    · intro ipv4 buffer grown
      exact (Kernel.slotSuits_iff_of_configuration done grown).mpr ipv4

/-- Whichever the source, an entry has a broadcast address only if its interface can broadcast. All
broadcast addresses are IPv4 and belong to IPv4 addresses just if no slot that one is taken from has
an IPv6 address, or an IPv4 one beside an IPv6 address. -/
theorem broadcasts_follow_slots (s : Source) (k : Kernel) :
    (∀ entries, (s.enumerate k).outcome = .ok entries → ∀ e ∈ entries,
      ∀ a, e.binding.broadcast = some a → s.CanBroadcast k e) ∧
    ((∀ entries, (s.enumerate k).outcome = .ok entries → ∀ e ∈ entries,
      ∀ a, e.binding.broadcast = some a →
        e.binding.unicast.family = .ipv4 ∧ a.family = .ipv4) ↔ s.SlotsSuit k) :=
  ⟨fun _ done _ present _ given => canBroadcast_of_mem done present given, (slotsSuit_iff s k).symm⟩

/-- A broadcast interface with an IPv6 address that has a peer. -/
def peered : List Node :=
  [⟨[0x65, 0x74, 0x68, 0x30], 4163,
    some (.v6 #v[0xfd, 0, 0, 0, 0, 0, 0, 0, 0, 0, 0, 0, 0, 0, 0, 1] 0),
    some (.v6 #v[0xff, 0xff, 0xff, 0xff, 0xff, 0xff, 0xff, 0xff, 0, 0, 0, 0, 0, 0, 0, 0] 0),
    some (.v6 #v[0xfd, 0, 0, 0, 0, 0, 0, 0, 0, 0, 0, 0, 0, 0, 0, 2] 0)⟩]

def peering : Kernel :=
  .ofList peered fun _ => 2

/-- Its peer is reported as the broadcast address. -/
theorem peer_as_broadcast :
    (Source.list.enumerate peering).outcome =
      .ok [⟨"eth0", 2, .v6 #v[0xfd, 0, 0, 0, 0, 0, 0, 0, 0, 0, 0, 0, 0, 0, 0, 1] 0,
        some (.v6 #v[0xff, 0xff, 0xff, 0xff, 0xff, 0xff, 0xff, 0xff, 0, 0, 0, 0, 0, 0, 0, 0] 0),
        some (.v6 #v[0xfd, 0, 0, 0, 0, 0, 0, 0, 0, 0, 0, 0, 0, 0, 0, 2] 0)⟩] ∧
    ¬ ∀ entries, (Source.list.enumerate peering).outcome = .ok entries →
      ∀ e ∈ entries, ∀ a, e.binding.broadcast = some a →
        e.binding.unicast.family = .ipv4 ∧ a.family = .ipv4 := by
  have listed : peering.entriesFrom 0 peered =
      [⟨"eth0", 2, .v6 #v[0xfd, 0, 0, 0, 0, 0, 0, 0, 0, 0, 0, 0, 0, 0, 0, 1] 0,
        some (.v6 #v[0xff, 0xff, 0xff, 0xff, 0xff, 0xff, 0xff, 0xff, 0, 0, 0, 0, 0, 0, 0, 0] 0),
        some (.v6 #v[0xfd, 0, 0, 0, 0, 0, 0, 0, 0, 0, 0, 0, 0, 0, 0, 2] 0)⟩] := by
    decide +kernel
  have found : (Source.list.enumerate peering).outcome = .ok (peering.entriesFrom 0 peered) :=
    Kernel.outcome_entriesByList rfl
  rw [listed] at found
  refine ⟨found, fun ipv4 => ?_⟩
  cases (ipv4 _ found _ List.mem_cons_self _ rfl).2

end Source

end HostNet
