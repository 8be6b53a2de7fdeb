import HostNet.Proofs.Kernel.AllOrNothing
import HostNet.Proofs.Kernel.SharedRecords

/-!
Whose index an entry carries. Configuration calls ask about a name as the kernel spells it. An
enumeration through the list asks about the text of the name spelled anew, which is another name
wherever the kernel's is not UTF-8.
-/

namespace HostNet.Kernel

variable {k : Kernel} {nodes : List Node} {n : Node} {entries : List Entry} {initial : Nat}
  {e : Entry}

/-- The reported nodes, each with the number of nodes visited before it. -/
def visits (nodes : List Node) : List (Node × Nat) :=
  nodes.zipIdx.filter (·.1.isReported)

/-- Each reported node gives an entry with the index of just the octets of its name. -/
def IndexesByName (k : Kernel) : Prop :=
  ∀ nodes, k.list = .ok nodes → ∃ entries, (Source.list.enumerate k).outcome = .ok entries ∧
    entries.map (·.index) = (visits nodes).map fun v => k.indexOf v.2 v.1.name.octets

theorem indexes_of_reports {visited : List (Node × Nat)}
    (reports : List.Forall₂ k.Reports visited entries) :
    entries.map (·.index) =
      visited.map fun v => k.indexOf v.2 (Utf8.ofString v.1.name.text) := by
  induction reports with
  | nil => rfl
  | cons first _ ih => simp only [List.map_cons, ih, first.index, first.name]

theorem indexes_entriesFrom (k : Kernel) (nodes : List Node) :
    (k.entriesFrom 0 nodes).map (·.index) =
      (visits nodes).map fun v => k.indexOf v.2 (Utf8.ofString v.1.name.text) :=
  indexes_of_reports (entriesFrom_report k 0 nodes)

theorem mem_reported_of_visits {v : Node × Nat} (member : v ∈ visits nodes) :
    v.1 ∈ reported nodes := by
  rw [reported_eq]
  exact List.mem_map_of_mem member

theorem exists_visit (member : n ∈ reported nodes) : ∃ round, (n, round) ∈ visits nodes := by
  rw [reported_eq] at member
  obtain ⟨v, visited, rfl⟩ := List.mem_map.mp member
  exact ⟨v.2, visited⟩

/-- What a kernel has to answer for its indexes to be right. -/
theorem indexesByName_iff (k : Kernel) :
    k.IndexesByName ↔ ∀ nodes, k.list = .ok nodes → ∀ v ∈ visits nodes,
      k.indexOf v.2 (Utf8.ofString v.1.name.text) = k.indexOf v.2 v.1.name.octets := by
  refine forall_congr' fun nodes => imp_congr_right fun list => ?_
  have found := outcome_entriesByList list
  constructor
  · rintro ⟨entries, outcome, indexes⟩
    have same : k.entriesFrom 0 nodes = entries := Except.ok.inj (found.symm.trans outcome)
    rwa [← same, indexes_entriesFrom, List.map_inj_left] at indexes
  · intro answers
    refine ⟨_, found, ?_⟩
    rwa [indexes_entriesFrom, List.map_inj_left]

/-- The lists for which every table of indexes is answered from rightly. -/
theorem forall_indexesByName_iff (nodes : List Node) :
    (∀ k : Kernel, k.list = .ok nodes → k.IndexesByName) ↔ ∀ n ∈ reported nodes, n.name.IsUtf8 := by
  constructor
  · intro always n member
    by_contra damaged
    -- A table that knows this name alone tells it from the one that is asked about.
    let k := ofList nodes fun name => if name = n.name.octets then 1 else 0
    obtain ⟨round, visited⟩ := exists_visit member
    have answer := (indexesByName_iff k).mp (always k rfl) nodes rfl (n, round) visited
    have different : Utf8.ofString n.name.text ≠ n.name.octets :=
      fun kept => damaged (RawName.ofString_text_eq_iff.mp kept)
    simp [k, ofList, different] at answer
  · intro spelled k list
    rw [indexesByName_iff]
    intro nodes' list' v visited
    obtain rfl : nodes = nodes' := Except.ok.inj (list.symm.trans list')
    rw [RawName.ofString_text_eq_iff.mpr (spelled v.1 (mem_reported_of_visits visited))]

theorem InspectedAll.exists_of_mem {round : Nat} {slots : List Slot} {inspections : List Inspection}
    {inspection : Inspection} (all : k.InspectedAll round slots inspections)
    (member : inspection ∈ inspections) :
    ∃ v ∈ slots.zipIdx round, k.Inspected v.2 v.1 inspection := by
  obtain ⟨place, bound, rfl⟩ := List.mem_iff_getElem.mp member
  have within : place < (slots.zipIdx round).length := all.length_eq ▸ bound
  exact ⟨_, List.get_mem _ ⟨place, within⟩, all.get within bound⟩

/-- What is found through configuration calls comes from looking into a slot. -/
theorem inspected_of_mem (done : (k.entriesByConfiguration initial).outcome = .ok entries)
    (present : e ∈ entries) :
    ∃ buffer, (k.slots initial).outcome = .ok buffer ∧ ∃ v ∈ buffer.toList.zipIdx,
      ∃ calls, k.Inspected v.2 v.1 ⟨calls, some e⟩ ∧
        ∀ c ∈ calls, c ∈ (k.entriesByConfiguration initial).calls := by
  obtain ⟨-, buffer, inspections, enumerates⟩ := enumerates_of_ok done
  rw [enumerates.entries] at present
  obtain ⟨⟨calls, entry⟩, member, rfl⟩ := List.mem_filterMap.mp present
  obtain ⟨v, visited, inspected⟩ := enumerates.inspected.exists_of_mem member
  refine ⟨buffer, enumerates.grown, v, visited, calls, inspected, fun c made => ?_⟩
  have among : c ∈ inspections.flatMap (·.calls) := List.mem_flatMap.mpr ⟨_, member, made⟩
  rw [enumerates.calls]
  simp [among]

theorem index_of_configuration (done : (k.entriesByConfiguration initial).outcome = .ok entries)
    (present : e ∈ entries) :
    ∃ buffer, (k.slots initial).outcome = .ok buffer ∧ ∃ v ∈ buffer.toList.zipIdx,
      ∃ index, e.name = v.1.name.text ∧
        Call.request .index v.1.name ∈ (k.entriesByConfiguration initial).calls ∧
        k.index v.2 v.1.name = .ok index ∧ e.index = index.toUInt32 := by
  obtain ⟨buffer, grown, v, visited, calls, inspected, made⟩ := inspected_of_mem done present
  refine ⟨buffer, grown, v, visited, ?_⟩
  cases inspected with
  | up _ _ _ _ _ numbered => exact ⟨_, rfl, made _ (by simp), numbered, rfl⟩
  | broadcasting _ _ _ _ _ _ numbered => exact ⟨_, rfl, made _ (by simp), numbered, rfl⟩

/-- Through the list, the indexes are right just if the kernel has the same index for each name and
for what its text spells, and that is sure just for names that are UTF-8. Configuration calls ask
with the octets of the name themselves. -/
theorem indexes_follow_names (k : Kernel) :
    (k.IndexesByName ↔ ∀ nodes, k.list = .ok nodes → ∀ v ∈ visits nodes,
      k.indexOf v.2 (Utf8.ofString v.1.name.text) = k.indexOf v.2 v.1.name.octets) ∧
    (∀ nodes : List Node, (∀ other : Kernel, other.list = .ok nodes → other.IndexesByName) ↔
      ∀ n ∈ reported nodes, n.name.IsUtf8) ∧
    ∀ (initial : Nat) (entries : List Entry),
      ((Source.configuration initial).enumerate k).outcome = .ok entries → ∀ e ∈ entries,
        ∃ buffer, (k.slots initial).outcome = .ok buffer ∧ ∃ v ∈ buffer.toList.zipIdx,
          ∃ index, e.name = v.1.name.text ∧
            Call.request .index v.1.name ∈ ((Source.configuration initial).enumerate k).calls ∧
            k.index v.2 v.1.name = .ok index ∧ e.index = index.toUInt32 :=
  ⟨indexesByName_iff k, forall_indexesByName_iff,
    fun _ _ done _ present => index_of_configuration done present⟩

/-- The second name has an octet that starts no character where the first has a replacement
character. -/
def homonyms : List Node :=
  [⟨[0x65, 0x74, 0xef, 0xbf, 0xbd, 0x68], 1, some (.v4 #v[10, 0, 10, 1]), none, none⟩,
    ⟨[0x65, 0x74, 0xff, 0x68], 1, some (.v4 #v[10, 0, 10, 2]), none, none⟩]

def homonymous : Kernel :=
  ofList homonyms fun name => if name = [0x65, 0x74, 0xef, 0xbf, 0xbd, 0x68] then 88 else 0

/-- The kernel has no index for the second name, and its entry carries that of the first. -/
theorem homonymous_index :
    (Source.list.enumerate homonymous).outcome =
      .ok [⟨"et\ufffdh", 88, .v4 #v[10, 0, 10, 1], none, none⟩,
        ⟨"et\ufffdh", 88, .v4 #v[10, 0, 10, 2], none, none⟩] ∧
    homonymous.indexOf 1 [0x65, 0x74, 0xff, 0x68] = 0 ∧ ¬ homonymous.IndexesByName := by
  have found := outcome_entriesByList (k := homonymous) rfl
  have listed : homonymous.entriesFrom 0 homonyms =
      [⟨"et\ufffdh", 88, .v4 #v[10, 0, 10, 1], none, none⟩,
        ⟨"et\ufffdh", 88, .v4 #v[10, 0, 10, 2], none, none⟩] := by
    decide +kernel
  refine ⟨listed ▸ found, by decide, fun right => ?_⟩
  obtain ⟨entries, outcome, indexes⟩ := right homonyms rfl
  obtain rfl := Except.ok.inj (found.symm.trans outcome)
  rw [listed] at indexes
  revert indexes
  decide

end HostNet.Kernel
