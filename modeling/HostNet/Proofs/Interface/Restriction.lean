import HostNet.Proofs.Interface.Queries

/-!
Records restricted to bindings of one kind. Restricting the records of a grouping gives the records
of the entries of that kind; only their order may differ, since an entry that is left out may have
brought its name forward.
-/

namespace HostNet.Interface

open Entry

variable {wanted : Binding → Bool} {entries : List Entry} {i j : Interface} {name : String}

def restrict (wanted : Binding → Bool) (i : Interface) : Interface :=
  { i with bindings := i.bindings.filter wanted }

/-- The records with their wanted bindings alone; those that none is left of are dropped. -/
def restrictAll (wanted : Binding → Bool) (interfaces : List Interface) : List Interface :=
  (interfaces.map (restrict wanted)).filter (·.bindings ≠ [])

theorem mem_restrictAll {interfaces : List Interface} :
    j ∈ restrictAll wanted interfaces ↔
      (∃ i ∈ interfaces, restrict wanted i = j) ∧ j.bindings ≠ [] := by
  simp [restrictAll]

/-- Entries of one name have one index, as far as the name has wanted bindings. -/
def SteadyIndex (wanted : Binding → Bool) (entries : List Entry) : Prop :=
  ∀ e ∈ entries, ∀ f ∈ entries, wanted f.binding = true → e.name = f.name → e.index = f.index

theorem named_filter (wanted : Binding → Bool) (entries : List Entry) (name : String) :
    named (entries.filter fun e => wanted e.binding) name =
      (named entries name).filter fun e => wanted e.binding := by
  rw [named, named, List.filter_filter, List.filter_filter]
  simp only [Bool.and_comm]

theorem Gathers.unique (first : Gathers entries i) (second : Gathers entries j)
    (same : i.name = j.name) : i = j := by
  have displayName : i.displayName = j.displayName := by
    rw [first.displayName, second.displayName, same]
  have index : some i.index = some j.index := by
    rw [← first.index, ← second.index, same]
  have bindings : i.bindings = j.bindings := by
    rw [first.bindings, second.bindings, same]
  cases i
  cases j
  simp_all

theorem mem_group_iff : i ∈ group entries ↔ Gathers entries i := by
  constructor
  · exact gathers_of_mem
  · intro gathers
    obtain ⟨e, present, named⟩ := gathers.mem_names
    obtain ⟨j, member, same⟩ := exists_mem_group present
    rwa [gathers.unique (gathers_of_mem member) (by rw [same, named])]

theorem Gathers.restrict (gathers : Gathers entries i) (steady : SteadyIndex wanted entries)
    (left : (i.restrict wanted).bindings ≠ []) :
    Gathers (entries.filter fun e => wanted e.binding) (i.restrict wanted) := by
  have bindings : (i.restrict wanted).bindings =
      (named (entries.filter fun e => wanted e.binding) i.name).map (·.binding) := by
    rw [Interface.restrict, gathers.bindings, named_filter, List.filter_map]
    rfl
  refine ⟨gathers.displayName, ?_, bindings⟩
  change (named (entries.filter fun e => wanted e.binding) i.name).head?.map (·.index) =
    some i.index
  cases kept : named (entries.filter fun e => wanted e.binding) i.name with
  | nil =>
    rw [kept] at bindings
    exact absurd bindings left
  | cons f rest =>
    obtain ⟨e, first, index⟩ := Option.map_eq_some_iff.mp gathers.index
    obtain ⟨present, same⟩ := mem_named.mp (List.mem_of_mem_head? first)
    have member : f ∈ named (entries.filter fun e => wanted e.binding) i.name :=
      kept ▸ List.mem_cons_self
    obtain ⟨chosen, sameKept⟩ := mem_named.mp member
    obtain ⟨presentKept, kind⟩ := List.mem_filter.mp chosen
    rw [List.head?_cons, Option.map_some, ← index,
      steady e present f presentKept kind (by rw [same, sameKept])]

theorem mem_restrictAll_group (steady : SteadyIndex wanted entries) :
    j ∈ restrictAll wanted (group entries) ↔
      j ∈ group (entries.filter fun e => wanted e.binding) := by
  rw [mem_restrictAll, mem_group_iff]
  constructor
  · rintro ⟨⟨i, member, rfl⟩, left⟩
    exact (gathers_of_mem member).restrict steady left
  · intro gathers
    obtain ⟨f, chosen, named⟩ := gathers.mem_names
    obtain ⟨present, kind⟩ := List.mem_filter.mp chosen
    obtain ⟨i, member, same⟩ := exists_mem_group present
    -- The binding of this entry is wanted, so the record of its name is not dropped.
    have left : (i.restrict wanted).bindings ≠ [] := by
      have bound : f.binding ∈ i.bindings := by
        rw [(gathers_of_mem member).bindings, same]
        exact List.mem_map_of_mem (mem_named.mpr ⟨present, rfl⟩)
      exact List.ne_nil_of_mem (List.mem_filter.mpr ⟨bound, kind⟩)
    have restricted := (gathers_of_mem member).restrict steady left
    have equal : i.restrict wanted = j := restricted.unique gathers (by rw [← named, ← same]; rfl)
    exact ⟨⟨i, member, equal⟩, equal ▸ left⟩

theorem nodup_restrictAll_group (wanted : Binding → Bool) (entries : List Entry) :
    (restrictAll wanted (group entries)).Nodup := by
  have names : ((group entries).map (restrict wanted)).map (·.name) =
      (group entries).map (·.name) := by
    rw [List.map_map]
    rfl
  have nodup : ((group entries).map (restrict wanted)).Nodup :=
    .of_map (·.name) (names ▸ nodup_names_group entries)
  exact nodup.filter _

theorem restrictAll_group_perm (steady : SteadyIndex wanted entries) :
    (restrictAll wanted (group entries)).Perm
      (group (entries.filter fun e => wanted e.binding)) := by
  have nodup := (nodup_names_group (entries.filter fun e => wanted e.binding)).of_map
  rw [List.perm_ext_iff_of_nodup (nodup_restrictAll_group wanted entries) nodup]
  intro j
  exact mem_restrictAll_group steady

-- The first entry is left out, but its name stays first.
example :
    let entries : List Entry :=
      [⟨"b", 2, .unspecified, none, none⟩, ⟨"a", 1, .v4 #v[10, 0, 0, 1], none, none⟩,
        ⟨"b", 2, .v4 #v[10, 0, 0, 2], none, none⟩]
    let wanted : Binding → Bool := fun b => b.unicast ≠ .unspecified
    (restrictAll wanted (group entries)).map (·.name) = ["b", "a"] ∧
      (group (entries.filter fun e => wanted e.binding)).map (·.name) = ["a", "b"] := by
  decide

theorem restrictAll_group_of_wanted (all : ∀ e ∈ entries, wanted e.binding = true) :
    restrictAll wanted (group entries) = group entries := by
  have whole : ∀ i ∈ group entries, i.restrict wanted = i := by
    intro i member
    have every : ∀ b ∈ i.bindings, wanted b = true := by
      intro b held
      rw [(gathers_of_mem member).bindings] at held
      obtain ⟨e, named, rfl⟩ := List.mem_map.mp held
      exact all e (mem_named.mp named).1
    rw [restrict, List.filter_eq_self.mpr every]
  have unchanged : (group entries).map (restrict wanted) = group entries := by
    rw [List.map_congr_left whole, List.map_id']
  rw [restrictAll, unchanged, List.filter_eq_self]
  intro i member
  exact decide_eq_true (gathers_of_mem member).nonempty

end HostNet.Interface
