import Mathlib.Data.List.Nodup
import HostNet.Proofs.Address.Layout
import HostNet.Proofs.Interface.Grouping
import HostNet.Proofs.Interface.Replies

/-!
Queries that answer from one enumeration agree with one another and with its entries. Grouping moves
entries of one name together, so a first match is first by the place of its name, and only then by
its own.
-/

namespace HostNet

namespace Entry

variable {entries : List Entry} {e f : Entry} {a : Address}

/-- The unicast address of the entry has the octets, the family and the scope of the given one. -/
def Bears (e : Entry) (a : Address) : Prop :=
  e.binding.unicast.octets = a.octets ∧ e.binding.unicast.family = a.family ∧
    e.binding.unicast.scope = a.scope

def Outward (e : Entry) : Prop :=
  e.binding.unicast.isLoopback = false

theorem bears_iff : e.Bears a ↔ e.binding.unicast = a := by
  constructor
  · rintro ⟨octets, _, scope⟩
    exact Address.eq_of_octets octets scope
  · rintro rfl
    exact ⟨rfl, rfl, rfl⟩

/-- The name comes first among the names of entries that bear the address. -/
structure FirstBearing (entries : List Entry) (a : Address) (name : String) : Prop where
  bears : ∃ e ∈ entries, e.name = name ∧ e.Bears a
  first : ∀ e ∈ entries, e.Bears a → firstPlace entries name ≤ firstPlace entries e.name

/-- Among the outward entries this one is the least by the first place of its name, then by its own
place. -/
structure LeastOutward (entries : List Entry) (k : Nat) (e : Entry) : Prop where
  here : entries[k]? = some e
  outward : e.Outward
  least : ∀ j f, entries[j]? = some f → f.Outward →
    firstPlace entries e.name < firstPlace entries f.name ∨
      (firstPlace entries e.name = firstPlace entries f.name ∧ k ≤ j)

theorem name_of_firstPlace (present : e ∈ entries) {name : String}
    (place : firstPlace entries e.name = firstPlace entries name) : e.name = name := by
  induction entries with
  | nil => cases present
  | cons g entries ih =>
    by_cases here : g.name = e.name
    · rw [← here, firstPlace_cons_self] at place
      by_cases there : g.name = name
      · rw [← here, there]
      · rw [firstPlace_cons_other there] at place
        omega
    · have behind : e ∈ entries := by
        rcases List.mem_cons.mp present with rfl | behind
        · exact absurd rfl here
        · exact behind
      by_cases there : g.name = name
      · rw [firstPlace_cons_other here, ← there, firstPlace_cons_self] at place
        omega
      · rw [firstPlace_cons_other here, firstPlace_cons_other there] at place
        exact ih behind (Nat.succ_inj.mp place)

end Entry

namespace Interface

open Entry

variable {entries : List Entry} {e : Entry} {i r : Interface} {front back : List Interface}
  {a : Address} {name : String}

theorem mem_unicasts_iff (member : i ∈ group entries) :
    a ∈ i.unicasts ↔ ∃ e ∈ entries, e.name = i.name ∧ e.binding.unicast = a := by
  rw [unicasts, (gathers_of_mem member).bindings]
  simp [mem_named, and_assoc]

theorem exists_mem_group (present : e ∈ entries) : ∃ i ∈ group entries, i.name = e.name :=
  List.mem_map.mp (mem_names_group present)

theorem findNamed_eq_some_iff :
    findNamed (group entries) name = some r ↔ r ∈ group entries ∧ r.name = name := by
  constructor
  · intro found
    exact ⟨List.mem_of_find?_eq_some found, by simpa using List.find?_some found⟩
  · rintro ⟨member, rfl⟩
    cases found : findNamed (group entries) r.name with
    | none =>
      have absent := List.find?_eq_none.mp found r member
      simp at absent
    | some s =>
      have same : s.name = r.name := by simpa using List.find?_some found
      have listed := List.mem_of_find?_eq_some found
      rw [List.inj_on_of_nodup_map (nodup_names_group entries) listed member same]

theorem findNamed_isSome_iff :
    (findNamed (group entries) name).isSome ↔ ∃ e ∈ entries, e.name = name := by
  rw [Option.isSome_iff_exists]
  constructor
  · rintro ⟨r, found⟩
    obtain ⟨member, rfl⟩ := findNamed_eq_some_iff.mp found
    exact (gathers_of_mem member).mem_names
  · rintro ⟨e, present, rfl⟩
    obtain ⟨i, member, same⟩ := exists_mem_group present
    exact ⟨i, findNamed_eq_some_iff.mpr ⟨member, same⟩⟩

theorem firstPlace_le_of_split (split : group entries = front ++ r :: back)
    (member : i ∈ group entries) (later : i ∉ front) :
    firstPlace entries r.name ≤ firstPlace entries i.name := by
  have order := order_group entries
  rw [split] at order member
  rcases List.mem_append.mp member with early | member
  · exact absurd early later
  rcases List.mem_cons.mp member with rfl | behind
  · exact Nat.le_refl _
  · have tail := (List.pairwise_append.mp order).2.1
    exact Nat.le_of_lt ((List.pairwise_cons.mp tail).1 i behind)

theorem findHolding_eq_some_iff :
    findHolding (group entries) a = some r ↔
      a ∈ r.unicasts ∧
        ∃ front back, group entries = front ++ r :: back ∧ ∀ i ∈ front, a ∉ i.unicasts := by
  simp [findHolding, List.find?_eq_some_iff_append, hasAddress]

theorem findHolding_isSome_iff :
    (findHolding (group entries) a).isSome ↔ ∃ e ∈ entries, e.Bears a := by
  rw [findHolding, List.find?_isSome]
  constructor
  · rintro ⟨i, member, has⟩
    rw [hasAddress, List.contains_iff_mem, mem_unicasts_iff member] at has
    obtain ⟨e, present, -, unicast⟩ := has
    exact ⟨e, present, bears_iff.mpr unicast⟩
  · rintro ⟨e, present, bears⟩
    obtain ⟨i, member, same⟩ := exists_mem_group present
    refine ⟨i, member, ?_⟩
    rw [hasAddress, List.contains_iff_mem, mem_unicasts_iff member]
    exact ⟨e, present, same.symm, bears_iff.mp bears⟩

theorem findHolding_firstBearing (found : findHolding (group entries) a = some r) :
    r ∈ group entries ∧ FirstBearing entries a r.name := by
  have member : r ∈ group entries := List.mem_of_find?_eq_some found
  obtain ⟨has, front, back, split, none⟩ := findHolding_eq_some_iff.mp found
  obtain ⟨e, present, same, unicast⟩ := (mem_unicasts_iff member).mp has
  refine ⟨member, ⟨e, present, same, bears_iff.mpr unicast⟩, ?_⟩
  intro f bearing bears
  obtain ⟨i, listed, named⟩ := exists_mem_group bearing
  have holds : a ∈ i.unicasts := by
    rw [mem_unicasts_iff listed]
    exact ⟨f, bearing, named.symm, bears_iff.mp bears⟩
  rw [← named]
  exact firstPlace_le_of_split split listed fun early => none i early holds

theorem firstOutward_eq_some_iff :
    firstOutward (group entries) = some a ↔
      ∃ front r, (∃ back, group entries = front ++ r :: back) ∧
        r.unicasts.find? (fun b => !b.isLoopback) = some a ∧
        ∀ i ∈ front, ∀ b ∈ i.unicasts, b.isLoopback = true := by
  simp [firstOutward, List.find?_flatMap, List.findSome?_eq_some_iff]

theorem firstOutward_isSome_iff :
    (firstOutward (group entries)).isSome ↔ ∃ e ∈ entries, e.Outward := by
  rw [firstOutward, List.find?_isSome]
  constructor
  · rintro ⟨b, member, outward⟩
    obtain ⟨i, listed, member⟩ := List.mem_flatMap.mp member
    obtain ⟨e, present, -, rfl⟩ := (mem_unicasts_iff listed).mp member
    exact ⟨e, present, by simpa [Outward] using outward⟩
  · rintro ⟨e, present, outward⟩
    obtain ⟨i, listed, named⟩ := exists_mem_group present
    have member : e.binding.unicast ∈ i.unicasts := by
      rw [mem_unicasts_iff listed]
      exact ⟨e, present, named.symm, rfl⟩
    refine ⟨_, List.mem_flatMap.mpr ⟨i, listed, member⟩, ?_⟩
    rw [outward]
    rfl

theorem firstOutward_of_record (member : r ∈ group entries)
    (found : r.unicasts.find? (fun b => !b.isLoopback) = some a) :
    ∃ (k : Nat) (e : Entry), entries[k]? = some e ∧ e.name = r.name ∧ e.Outward ∧
      e.binding.unicast = a ∧
      ∀ (j : Nat) (f : Entry), entries[j]? = some f → f.name = r.name → f.Outward → k ≤ j := by
  rw [unicasts, (gathers_of_mem member).bindings, List.map_map, named, List.find?_map,
    List.find?_filter] at found
  obtain ⟨e, first, unicast⟩ := Option.map_eq_some_iff.mp found
  obtain ⟨holds, k, bound, here, before⟩ := List.find?_eq_some_iff_getElem.mp first
  simp only [decide_eq_true_eq, Function.comp_apply, Bool.not_eq_true'] at holds
  refine ⟨k, e, List.getElem?_eq_some_iff.mpr ⟨bound, here⟩, holds.1, holds.2, unicast, ?_⟩
  intro j f there same outward
  by_contra early
  obtain ⟨inside, rfl⟩ := List.getElem?_eq_some_iff.mp there
  have passed := before j (by omega)
  rw [Outward] at outward
  simp [same, outward] at passed

theorem leastOutward_of_split (split : group entries = front ++ r :: back)
    (loopback : ∀ i ∈ front, ∀ b ∈ i.unicasts, b.isLoopback = true) {k : Nat}
    (here : entries[k]? = some e) (same : e.name = r.name) (outward : e.Outward)
    (before : ∀ (j : Nat) (f : Entry), entries[j]? = some f → f.name = r.name → f.Outward → k ≤ j) :
    LeastOutward entries k e := by
  refine ⟨here, outward, ?_⟩
  intro j f there out
  obtain ⟨i, listed, named⟩ := exists_mem_group (List.mem_of_getElem? there)
  -- A record in front has loopback bindings alone, so the outward entry belongs behind the split.
  have later : i ∉ front := by
    intro early
    have bound : f.binding.unicast ∈ i.unicasts := by
      rw [mem_unicasts_iff listed]
      exact ⟨f, List.mem_of_getElem? there, named.symm, rfl⟩
    rw [Outward, loopback i early _ bound] at out
    cases out
  have order := firstPlace_le_of_split split listed later
  rw [← same, named] at order
  rcases Nat.lt_or_eq_of_le order with earlier | place
  · exact .inl earlier
  · have shared : f.name = r.name := by
      rw [← same, name_of_firstPlace (List.mem_of_getElem? here) place]
    exact .inr ⟨place, before j f there shared out⟩

theorem firstOutward_least (found : firstOutward (group entries) = some a) :
    ∃ k e, LeastOutward entries k e ∧ e.binding.unicast = a ∧
      ∃ front r back, group entries = front ++ r :: back ∧ r.name = e.name ∧
        e.binding ∈ r.bindings ∧ findHolding (group entries) a = some r ∧
        ∀ i ∈ front, ∀ b ∈ i.unicasts, b.isLoopback = true := by
  obtain ⟨front, r, ⟨back, split⟩, first, loopback⟩ := firstOutward_eq_some_iff.mp found
  have member : r ∈ group entries := by simp [split]
  obtain ⟨k, e, here, same, outward, rfl, before⟩ := firstOutward_of_record member first
  have held : findHolding (group entries) e.binding.unicast = some r := by
    refine findHolding_eq_some_iff.mpr ⟨List.mem_of_find?_eq_some first, front, back, split, ?_⟩
    intro i early holds
    rw [Outward, loopback i early _ holds] at outward
    cases outward
  have bound : e.binding ∈ r.bindings := by
    rw [(gathers_of_mem member).bindings]
    exact List.mem_map_of_mem (mem_named.mpr ⟨List.mem_of_getElem? here, same⟩)
  exact ⟨k, e, leastOutward_of_split split loopback here same outward before, rfl, front, r, back,
    split, same.symm, bound, held, loopback⟩

end Interface

namespace Query

open Entry Interface

/-- The replies to all queries about one enumeration agree with one another and with its entries. -/
theorem replies_agree (source : String) (entries : List Entry) :
    ∃ records, reply source .all (.ok entries) = .ok (.interfaces records) ∧
      (∀ name, ∃ found, reply source (.named name) (.ok entries) = .ok (.found found) ∧
        (found.isSome ↔ ∃ e ∈ entries, e.name = name)) ∧
      (∀ r ∈ records, reply source (.named r.name) (.ok entries) = .ok (.found (some r))) ∧
      (∀ a, ∃ found, reply source (.holding a) (.ok entries) = .ok (.found found) ∧
        (found.isSome ↔ ∃ e ∈ entries, e.Bears a) ∧
        ∀ r, found = some r → r ∈ records ∧ FirstBearing entries a r.name) ∧
      ((∃ a, reply source .localHost (.ok entries) = .ok (.address a)) ↔
        ∃ e ∈ entries, e.Outward) ∧
      (reply source .localHost (.ok entries) =
          .error (.unknownHost "no non-loopback address is bound to any interface") ↔
        ¬ ∃ e ∈ entries, e.Outward) ∧
      ∀ a, reply source .localHost (.ok entries) = .ok (.address a) →
        ∃ k e, LeastOutward entries k e ∧ e.binding.unicast = a ∧
          ∃ front r back, records = front ++ r :: back ∧ r.name = e.name ∧
            e.binding ∈ r.bindings ∧
            reply source (.holding a) (.ok entries) = .ok (.found (some r)) ∧
            ∀ i ∈ front, ∀ b ∈ i.unicasts, b.isLoopback = true := by
  refine ⟨group entries, rfl, ?_, ?_, ?_, ?_, ?_, ?_⟩
  · intro name
    exact ⟨_, rfl, findNamed_isSome_iff⟩
  · intro r member
    have found : findNamed (group entries) r.name = some r :=
      findNamed_eq_some_iff.mpr ⟨member, rfl⟩
    rw [reply_named, found]
  · intro a
    exact ⟨_, rfl, findHolding_isSome_iff, fun r found => findHolding_firstBearing found⟩
  · rw [← firstOutward_isSome_iff, reply_localHost]
    cases firstOutward (group entries) <;> simp
  · rw [← firstOutward_isSome_iff, reply_localHost]
    cases firstOutward (group entries) <;> simp
  · intro a replied
    have found : firstOutward (group entries) = some a := by
      rw [reply_localHost] at replied
      split at replied <;> cases replied
      assumption
    obtain ⟨k, e, least, unicast, front, r, back, split, same, bound, held, loopback⟩ :=
      firstOutward_least found
    refine ⟨k, e, least, unicast, front, r, back, split, same, bound, ?_, loopback⟩
    rw [reply_holding, held]

end Query

end HostNet
