import HostNet.Proofs.Interface.Grouping

/-!
Records taken apart into their entries and put together again. Grouping gives just the lists of
records that come back unchanged, so entries can be grouped once more, or later ones added, without
going back to the first entries.
-/

namespace HostNet.Interface

open Entry

structure WellFormed (i : Interface) : Prop where
  bound : i.bindings ≠ []
  displayed : i.displayName = i.name

variable {entries : List Entry} {i : Interface} {records : List Interface}

theorem wellFormed_of_mem_group (member : i ∈ group entries) : i.WellFormed where
  bound := (gathers_of_mem member).nonempty
  displayed := (gathers_of_mem member).displayName

theorem named_append_flatten {name : String} (apart : name ∉ records.map (·.name))
    (index : UInt32) (bindings : List Binding) :
    named (bindings.map (Entry.mk name index) ++ flatten records) name =
        bindings.map (Entry.mk name index) ∧
      others (bindings.map (Entry.mk name index) ++ flatten records) name = flatten records := by
  have foreign : ∀ e ∈ flatten records, e.name ≠ name := by
    intro e present same
    obtain ⟨j, member, bound⟩ := List.mem_flatMap.mp present
    obtain ⟨b, -, rfl⟩ := List.mem_map.mp bound
    exact apart (same ▸ List.mem_map_of_mem member)
  constructor
  · rw [named, List.filter_append, List.filter_eq_self.mpr (by simp),
      List.filter_eq_nil_iff.mpr (by simpa using foreign), List.append_nil]
  · rw [others, List.filter_append, List.filter_eq_nil_iff.mpr (by simp),
      List.filter_eq_self.mpr (by simpa using foreign), List.nil_append]

/-- Records of different names are put together again from their entries. -/
theorem group_flatten (distinct : (records.map (·.name)).Nodup)
    (formed : ∀ i ∈ records, i.WellFormed) : group (flatten records) = records := by
  induction records with
  | nil => rfl
  | cons i records ih =>
    obtain ⟨apart, later⟩ := List.nodup_cons.mp distinct
    have own := formed i List.mem_cons_self
    have behind := ih later fun j member => formed j (List.mem_cons_of_mem _ member)
    obtain ⟨name, displayName, index, bindings⟩ := i
    obtain rfl : displayName = name := own.displayed
    cases bindings with
    | nil => exact absurd rfl own.bound
    | cons b bindings =>
      have split : flatten (⟨displayName, displayName, index, b :: bindings⟩ :: records) =
          ⟨displayName, index, b⟩ ::
            (bindings.map (Entry.mk displayName index) ++ flatten records) := rfl
      obtain ⟨mine, theirs⟩ := named_append_flatten apart index bindings
      have kept : (bindings.map (Entry.mk displayName index)).map (·.binding) = bindings := by
        rw [List.map_map]
        exact List.map_id _
      rw [split, group_cons, theirs, behind, begunBy, mine, kept]

theorem exists_group_iff : (∃ entries, group entries = records) ↔
    (records.map (·.name)).Nodup ∧ ∀ i ∈ records, i.WellFormed := by
  constructor
  · rintro ⟨entries, rfl⟩
    exact ⟨nodup_names_group entries, fun i member => wellFormed_of_mem_group member⟩
  · rintro ⟨distinct, formed⟩
    exact ⟨flatten records, group_flatten distinct formed⟩

theorem group_flatten_iff : group (flatten records) = records ↔
    (records.map (·.name)).Nodup ∧ ∀ i ∈ records, i.WellFormed := by
  constructor
  · intro kept
    exact exists_group_iff.mp ⟨flatten records, kept⟩
  · rintro ⟨distinct, formed⟩
    exact group_flatten distinct formed

theorem group_flatten_group (entries : List Entry) :
    group (flatten (group entries)) = group entries :=
  group_flatten_iff.mpr (exists_group_iff.mp ⟨entries, rfl⟩)

/-- Entries that come later are added to the records of the earlier ones. -/
theorem group_append (first second : List Entry) :
    group (first ++ second) = second.foldl addEntry (group first) :=
  List.foldl_append

/-- Grouping undoes taking apart exactly where records have distinct names, bindings, and their names
on display. What it gives can stand for the entries that it was made of, also before others. -/
theorem grouping_retracts :
    (∀ records : List Interface, group (flatten records) = records ↔
      (records.map (·.name)).Nodup ∧ ∀ i ∈ records, i.WellFormed) ∧
    (∀ entries : List Entry, group (flatten (group entries)) = group entries) ∧
    ∀ first second : List Entry,
      group (first ++ second) = group (flatten (group first) ++ second) := by
  refine ⟨fun _ => group_flatten_iff, group_flatten_group, ?_⟩
  intro first second
  calc group (first ++ second) = second.foldl addEntry (group first) := group_append first second
    _ = second.foldl addEntry (group (flatten (group first))) := by rw [group_flatten_group]
    _ = group (flatten (group first) ++ second) := (group_append _ second).symm

-- The index of a later entry is lost, and nothing depends on it.
example :
    flatten (group [⟨"a", 1, .unspecified, none, none⟩, ⟨"b", 2, .unspecified, none, none⟩,
      ⟨"a", 7, .v4 #v[10, 0, 0, 1], none, none⟩]) =
    [⟨"a", 1, .unspecified, none, none⟩, ⟨"a", 1, .v4 #v[10, 0, 0, 1], none, none⟩,
      ⟨"b", 2, .unspecified, none, none⟩] := by
  decide

end HostNet.Interface
