import HostNet.Proofs.Interface.Placement
import HostNet.Proofs.Kernel.ListCalls
import HostNet.Proofs.SourceAgreement
import HostNet.Proofs.Text.Repair

/-!
Which nodes of the kernel's list come to stand in one record. The text of their names decides, and
repair gives one text to names that are not UTF-8 and differ.
-/

namespace HostNet

/-- The binding that a reported node gives. -/
def Node.binding? (n : Node) : Option Binding :=
  (n.address.bind (·.address?)).map n.binding

namespace Kernel

variable {k : Kernel} {nodes : List Node} {visited : List (Node × Nat)} {entries : List Entry}

def reported (nodes : List Node) : List Node :=
  nodes.filter (·.isReported)

/-- The reported nodes, each with the place of the record that it is put into. -/
def placements (k : Kernel) (nodes : List Node) : List (Node × Nat) :=
  (reported nodes).zip (Interface.places (k.entriesFrom 0 nodes))

/-- No record is shared by nodes whose names differ. -/
def KeepsApart (k : Kernel) : Prop :=
  ∀ nodes, k.list = .ok nodes → ∀ x ∈ k.placements nodes, ∀ y ∈ k.placements nodes,
    x.1.name.octets ≠ y.1.name.octets → x.2 ≠ y.2

theorem reported_eq (nodes : List Node) :
    reported nodes = (nodes.zipIdx.filter (·.1.isReported)).map (·.1) := by
  have listed : nodes.zipIdx.map (·.1) = nodes := List.zipIdx_map_fst 0 nodes
  rw [reported, ← congrArg (List.filter (·.isReported)) listed, List.filter_map]
  rfl

theorem binding?_of_reports {n : Node × Nat} {e : Entry} (reports : k.Reports n e) :
    n.1.binding? = some e.binding := by
  rw [Node.binding?, reports.address, Option.map_some, ← reports.binding]

theorem names_of_reports (reports : List.Forall₂ k.Reports visited entries) :
    entries.map (·.name) = (visited.map (·.1)).map (·.name.text) := by
  induction reports with
  | nil => rfl
  | cons first _ ih => simp only [List.map_cons, ih, first.name]

theorem bindings_of_reports (reports : List.Forall₂ k.Reports visited entries)
    (keep : String → Bool) :
    (entries.filter (keep ·.name)).map (·.binding) =
      ((visited.map (·.1)).filter (keep ·.name.text)).filterMap (·.binding?) := by
  induction reports with
  | nil => rfl
  | @cons n e visited entries first _ ih =>
    have kept : keep n.1.name.text = keep e.name := by rw [first.name]
    simp only [List.map_cons, List.filter_cons, kept]
    split
    · rw [List.map_cons, List.filterMap_cons_some (binding?_of_reports first), ih]
    · exact ih

/-- A reported node is put where the record of its name's text stands. -/
theorem placements_eq (k : Kernel) (nodes : List Node) :
    k.placements nodes = (reported nodes).map fun n =>
      (n, Interface.placeOf (Interface.group (k.entriesFrom 0 nodes)) n.name.text) := by
  have names := names_of_reports (entriesFrom_report k 0 nodes)
  rw [← reported_eq] at names
  rw [placements]
  generalize k.entriesFrom 0 nodes = entries at names ⊢
  have texts := congrArg (List.map (Interface.placeOf (Interface.group entries))) names
  rw [List.map_map, List.map_map] at texts
  have places : Interface.places entries =
      (reported nodes).map fun n => Interface.placeOf (Interface.group entries) n.name.text :=
    (Interface.places_eq entries).trans texts
  rw [places, List.map_prod_left_eq_zip]

theorem bindingsAt_placements (k : Kernel) (nodes : List Node) (place : Nat) :
    Interface.bindingsAt (Interface.group (k.entriesFrom 0 nodes)) place =
      ((k.placements nodes).filter (·.2 = place)).filterMap (·.1.binding?) := by
  have bindings := bindings_of_reports (entriesFrom_report k 0 nodes) fun name =>
    Interface.placeOf (Interface.group (k.entriesFrom 0 nodes)) name = place
  rw [← reported_eq] at bindings
  rw [Interface.bindingsAt_group, Interface.places_eq, ← List.map_prod_left_eq_zip,
    List.filter_map, List.map_map, placements_eq, List.filter_map, List.filterMap_map]
  exact bindings

theorem exists_entry_of_reported {n : Node} (member : n ∈ reported nodes) :
    ∃ e ∈ k.entriesFrom 0 nodes, e.name = n.name.text := by
  have names := names_of_reports (entriesFrom_report k 0 nodes)
  rw [← reported_eq] at names
  have listed : n.name.text ∈ (k.entriesFrom 0 nodes).map (·.name) := by
    rw [names]
    exact List.mem_map_of_mem member
  exact List.mem_map.mp listed

theorem exists_reported_of_mem {e : Entry} (present : e ∈ k.entriesFrom 0 nodes) :
    ∃ n ∈ reported nodes, ∃ round, k.Reports (n, round) e := by
  obtain ⟨round, n, listed, found⟩ := mem_entriesFrom present
  obtain ⟨unicast, known, -⟩ := entryAt_eq_some_iff.mp found
  exact ⟨n, List.mem_filter.mpr ⟨listed, isReported_iff.mpr ⟨unicast, known⟩⟩, round,
    reports_of_entryAt found⟩

/-- The records of a list: each reported node is put into one of them, and two nodes into the same
one just if their names have one text. -/
structure RecordsByText (k : Kernel) (nodes : List Node) (records : List Interface) : Prop where
  answered : (Source.list.ask k .all).outcome = .ok (.interfaces records)
  placed : (k.placements nodes).map (·.1) = nodes.filter (·.isReported)
  within : ∀ x ∈ k.placements nodes, x.2 < records.length
  bindings : ∀ place, Interface.bindingsAt records place =
    ((k.placements nodes).filter (·.2 = place)).filterMap (·.1.binding?)
  shared : ∀ x ∈ k.placements nodes, ∀ y ∈ k.placements nodes,
    x.2 = y.2 ↔ x.1.name.text = y.1.name.text

theorem recordsByText_group (list : k.list = .ok nodes) :
    k.RecordsByText nodes (Interface.group (k.entriesFrom 0 nodes)) where
  answered := Source.outcome_ask_all (outcome_entriesByList list)
  placed := by
    rw [placements_eq, List.map_map]
    exact List.map_id _
  within := by
    intro x placed
    rw [placements_eq] at placed
    obtain ⟨n, member, rfl⟩ := List.mem_map.mp placed
    obtain ⟨e, present, same⟩ := exists_entry_of_reported (k := k) member
    rw [← same]
    exact Interface.placeOf_lt present
  bindings := bindingsAt_placements k nodes
  shared := by
    intro x first y second
    rw [placements_eq] at first second
    obtain ⟨n, member, rfl⟩ := List.mem_map.mp first
    obtain ⟨m, other, rfl⟩ := List.mem_map.mp second
    obtain ⟨e, present, same⟩ := exists_entry_of_reported (k := k) member
    obtain ⟨f, -, named⟩ := exists_entry_of_reported (k := k) other
    rw [← same, ← named]
    exact Interface.placeOf_inj present

/-- Nodes whose names differ share a record only if the names have one text all the same. That text
then has a replacement character, and one of the names is not UTF-8. -/
theorem shared_records_damaged (k : Kernel) (nodes : List Node) (list : k.list = .ok nodes) :
    ∃ records, k.RecordsByText nodes records ∧
      ∀ x ∈ k.placements nodes, ∀ y ∈ k.placements nodes,
        x.1.name.octets ≠ y.1.name.octets → x.2 = y.2 →
          '\ufffd' ∈ x.1.name.text.toList ∧ (¬ x.1.name.IsUtf8 ∨ ¬ y.1.name.IsUtf8) := by
  have records := recordsByText_group list
  refine ⟨_, records, fun x first y second different together => ?_⟩
  exact RawName.damaged_of_text_eq ((records.shared x first y second).mp together) different

/-- Two interfaces, each named by one octet that starts no character. -/
def strays : List Node :=
  [⟨[0x80], 1, some (.v4 #v[10, 0, 0, 1]), none, none⟩,
    ⟨[0x81], 1, some (.v4 #v[10, 0, 0, 2]), none, none⟩]

theorem shared_records_damaged_strays :
    (ofList strays fun _ => 0).list = .ok strays ∧
    ∃ records, (ofList strays fun _ => 0).RecordsByText strays records ∧
      ∀ x ∈ (ofList strays fun _ => 0).placements strays,
        ∀ y ∈ (ofList strays fun _ => 0).placements strays,
          x.1.name.octets ≠ y.1.name.octets → x.2 = y.2 →
            '\ufffd' ∈ x.1.name.text.toList ∧ (¬ x.1.name.IsUtf8 ∨ ¬ y.1.name.IsUtf8) :=
  ⟨rfl, shared_records_damaged _ strays rfl⟩

/-- Both are listed as one interface. -/
theorem strays_share_record :
    (Source.list.ask (ofList strays fun _ => 0) .all).outcome =
      .ok (.interfaces [⟨"\ufffd", "\ufffd", 0,
        [⟨.v4 #v[10, 0, 0, 1], none, none⟩, ⟨.v4 #v[10, 0, 0, 2], none, none⟩]⟩]) ∧
    ¬ (ofList strays fun _ => 0).KeepsApart := by
  have found := outcome_entriesByList (k := ofList strays fun _ => 0) rfl
  have grouped : Interface.group ((ofList strays fun _ => 0).entriesFrom 0 strays) =
      [⟨"\ufffd", "\ufffd", 0,
        [⟨.v4 #v[10, 0, 0, 1], none, none⟩, ⟨.v4 #v[10, 0, 0, 2], none, none⟩]⟩] := by
    decide +kernel
  refine ⟨grouped ▸ Source.outcome_ask_all found, fun apart => ?_⟩
  have placed : (ofList strays fun _ => 0).placements strays = strays.zip [0, 0] := by
    decide +kernel
  have different : (strays[0].name).octets ≠ (strays[1].name).octets := by decide
  have first : (strays[0], 0) ∈ (ofList strays fun _ => 0).placements strays := by
    rw [placed]
    exact List.mem_cons_self
  have second : (strays[1], 0) ∈ (ofList strays fun _ => 0).placements strays := by
    rw [placed]
    exact List.mem_cons_of_mem _ List.mem_cons_self
  exact apart strays rfl _ first _ second different rfl

end Kernel

end HostNet
