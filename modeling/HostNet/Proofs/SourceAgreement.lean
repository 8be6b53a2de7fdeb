import HostNet.Proofs.Interface.Replies
import HostNet.Proofs.Interface.Restriction
import HostNet.Proofs.Kernel.Table
import HostNet.Source

/-!
The ways to enumerate agree. What the configuration calls find is what is IPv4 of the kernel's list;
so are the records.
-/

namespace HostNet

namespace InterfaceTable

variable {t : InterfaceTable} {k : Kernel} {nodes : List Node}

theorem name_of_mem_entries {e : Entry} (member : e ∈ t.entries) :
    ∃ b ∈ t.bindings, e.name = b.1.text := by
  obtain ⟨b, bound, found⟩ := List.mem_filterMap.mp member
  rw [found?] at found
  split at found
  · cases found
    exact ⟨b, bound, rfl⟩
  · cases found

theorem HeldBy.steadyIndex (held : t.HeldBy k nodes) :
    Interface.SteadyIndex (·.isIpv4) (k.entriesFrom 0 nodes) := by
  -- An index is asked for by the text of a name, whichever octets the node spells it with.
  have byName : ∀ e ∈ k.entriesFrom 0 nodes, ∀ b ∈ t.bindings, e.name = b.1.text →
      e.index = t.index b.1 := by
    intro e member b bound same
    obtain ⟨round, n, -, found⟩ := Kernel.mem_entriesFrom member
    rw [Kernel.index_of_entryAt found, same, held.indexFor_text bound]
  intro e member f other kind same
  have listed : f ∈ t.entries :=
    held.filter_entriesFrom ▸ List.mem_filter.mpr ⟨other, kind⟩
  obtain ⟨b, bound, name⟩ := name_of_mem_entries listed
  rw [byName e member b bound (same.trans name), byName f other b bound name]

end InterfaceTable

namespace Source

theorem outcome_ask_all {s : Source} {k : Kernel} {entries : List Entry}
    (ended : (s.enumerate k).outcome = .ok entries) :
    (s.ask k .all).outcome = .ok (.interfaces (Interface.group entries)) := by
  rw [ask, Backend.outcome_ask]
  change Query.reply s.name .all (s.enumerate k).outcome = _
  rw [ended, Query.reply_all]

/-- Over one table of IPv4 bindings the configuration calls find just the IPv4 entries of the list,
so both sources give the same records of IPv4 bindings, unless room for the buffer runs out. The
records may be in another order, since an IPv6 entry can bring the name of its interface forward. -/
theorem sources_agree (t : InterfaceTable) (k : Kernel) (nodes : List Node) (initial : Nat)
    (held : t.HeldBy k nodes) :
    ∃ listed byList,
      (Source.list.enumerate k).outcome = .ok listed ∧
      listed.filter (·.binding.isIpv4) = t.entries ∧
      (Source.list.ask k .all).outcome = .ok (.interfaces byList) ∧
      (Growth.Settles Slot.countable t.bindings.length (Growth.firstCapacity initial) →
        ((Source.configuration initial).enumerate k).outcome =
          .ok (listed.filter (·.binding.isIpv4)) ∧
        ∃ byConfiguration,
          ((Source.configuration initial).ask k .all).outcome =
            .ok (.interfaces byConfiguration) ∧
          (Interface.restrictAll (·.isIpv4) byList).Perm
            (Interface.restrictAll (·.isIpv4) byConfiguration)) ∧
      (¬ Growth.Settles Slot.countable t.bindings.length (Growth.firstCapacity initial) →
        ((Source.configuration initial).enumerate k).outcome =
          .error (.discovery "SIOCGIFCONF" Growth.overflow)) := by
  have filtered := held.filter_entriesFrom
  have byList : (Source.list.enumerate k).outcome = .ok (k.entriesFrom 0 nodes) :=
    Kernel.outcome_entriesByList held.list
  refine ⟨_, _, byList, filtered, outcome_ask_all byList, ?_,
    held.outcome_entriesByConfiguration_overflow⟩
  intro settles
  have byConfiguration : ((Source.configuration initial).enumerate k).outcome =
      .ok ((k.entriesFrom 0 nodes).filter (·.binding.isIpv4)) := by
    rw [filtered]
    exact held.outcome_entriesByConfiguration settles
  have whole := Interface.restrictAll_group_of_wanted
    fun e (member : e ∈ (k.entriesFrom 0 nodes).filter (·.binding.isIpv4)) =>
      (List.mem_filter.mp member).2
  refine ⟨byConfiguration, _, outcome_ask_all byConfiguration, ?_⟩
  rw [whole]
  exact Interface.restrictAll_group_perm held.steadyIndex

/-- A loopback interface, one with two addresses, and one that is down. -/
def office : InterfaceTable where
  bindings := [(lo, #v[127, 0, 0, 53]), (eth, #v[10, 0, 0, 5]), (wlan, #v[192, 168, 1, 7]),
    (eth, #v[10, 0, 0, 6])]
  flags name := if name = lo then 0x10049 else if name = eth then 0x11043 else 0x1002
  netmask name := .v4 (if name = lo then #v[255, 0, 0, 0] else #v[255, 255, 255, 0])
  broadcast name := if name = lo then .foreign 0 else .v4 #v[10, 0, 0, 255]
  index name := if name = lo then 1 else if name = eth then 2 else 3
where
  lo : RawName := [0x6c, 0x6f]
  eth : RawName := [0x65, 0x74, 0x68, 0x30]
  wlan : RawName := [0x77, 0x6c, 0x61, 0x6e, 0x30]

/-- The nodes of the office with others in between. An IPv6 address stands first. -/
def officeNodes : List Node :=
  ⟨office.eth, 0x11043, some (.v6 #v[0xfe, 0x80, 0, 0, 0, 0, 0, 0, 0, 0, 0, 0, 0, 0, 0, 0x77] 2), none,
    none⟩ ::
  office.node (office.lo, #v[127, 0, 0, 53]) ::
  ⟨[0x74, 0x75, 0x6e], 0x1, none, none, none⟩ ::
  office.node (office.eth, #v[10, 0, 0, 5]) ::
  office.node (office.wlan, #v[192, 168, 1, 7]) ::
  ⟨office.eth, 0x11043, some (.foreign 17), none, none⟩ ::
  [office.node (office.eth, #v[10, 0, 0, 6])]

theorem sources_agree_office :
    office.HeldBy (office.kernel officeNodes) officeNodes ∧
    Growth.Settles Slot.countable office.bindings.length (Growth.firstCapacity 1) ∧
    ∃ listed byList,
      (Source.list.enumerate (office.kernel officeNodes)).outcome = .ok listed ∧
      listed.filter (·.binding.isIpv4) = office.entries ∧
      (Source.list.ask (office.kernel officeNodes) .all).outcome = .ok (.interfaces byList) ∧
      ((Source.configuration 1).enumerate (office.kernel officeNodes)).outcome =
        .ok (listed.filter (·.binding.isIpv4)) ∧
      ∃ byConfiguration,
        ((Source.configuration 1).ask (office.kernel officeNodes) .all).outcome =
          .ok (.interfaces byConfiguration) ∧
        (Interface.restrictAll (·.isIpv4) byList).Perm
          (Interface.restrictAll (·.isIpv4) byConfiguration) := by
  have lo : RawName.IsText office.lo := ⟨by decide, by decide⟩
  have eth : RawName.IsText office.eth := ⟨by decide, by decide⟩
  have wlan : RawName.IsText office.wlan := ⟨by decide, by decide⟩
  have names : ∀ b ∈ office.bindings, b.1.IsText := by
    simpa [office] using ⟨lo, eth, wlan, eth⟩
  have held : office.HeldBy (office.kernel officeNodes) officeNodes :=
    InterfaceTable.heldBy_kernel names rfl
  have settles : Growth.Settles Slot.countable office.bindings.length (Growth.firstCapacity 1) :=
    ⟨2, by decide, by decide⟩
  obtain ⟨listed, byList, found, filtered, answered, agree, -⟩ :=
    sources_agree office (office.kernel officeNodes) officeNodes 1 held
  exact ⟨held, settles, listed, byList, found, filtered, answered, agree settles⟩

end Source

end HostNet
