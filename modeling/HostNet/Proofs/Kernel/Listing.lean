import HostNet.Kernel.List
import HostNet.Proofs.Kernel.Outcome

/-!
What enumeration through the kernel's list finds. Nothing fails once the list is there: each node
gives one entry or none, whatever the others give.
-/

namespace HostNet

namespace Node

def isIpv4 (n : Node) : Bool :=
  match n.address with
  | some (.v4 _) => true
  | _ => false

theorem address?_eq_ok {n : Node} {a : Address} :
    n.address? = .ok a ↔ n.address.bind (·.address?) = some a ∧ n.flags.isUp = true := by
  rw [address?]
  cases n.address with
  | none => simp
  | some s =>
    simp only [Option.bind_some]
    cases s.address? with
    | none => simp
    | some b => cases n.flags.isUp <;> simp

end Node

def Binding.isIpv4 (b : Binding) : Bool :=
  b.unicast.family = .ipv4

namespace Kernel

open Run

/-- The index that a name gets; none is known for a name with a zero octet. -/
def indexFor (k : Kernel) (round : Nat) (name : String) : UInt32 :=
  if 0 ∈ Utf8.ofString name then 0 else k.indexOf round (Utf8.ofString name)

def entryAt (k : Kernel) (round : Nat) (n : Node) : Option Entry :=
  n.address?.toOption.map fun unicast =>
    ⟨n.name.text, k.indexFor round n.name.text, n.binding unicast⟩

/-- The entries of nodes of which the first is visited in the given round. -/
def entriesFrom (k : Kernel) (round : Nat) : List Node → List Entry
  | [] => []
  | n :: rest => (k.entryAt round n).toList ++ k.entriesFrom (round + 1) rest

variable {ε : Type} {k : Kernel} {nodes : List Node} {n : Node} {e : Entry} {round : Nat}

theorem outcome_lookUp (k : Kernel) (round : Nat) (name : String) :
    (k.lookUp round name : Run ε UInt32).outcome = .ok (k.indexFor round name) := by
  rw [lookUp, indexFor]
  split <;> rfl

theorem outcome_visit (k : Kernel) (round : Nat) (n : Node) :
    (k.visit round n : Run ε (Option Entry)).outcome = .ok (k.entryAt round n) := by
  rw [visit, entryAt]
  cases n.address? with
  | error event => rfl
  | ok unicast => exact outcome_bind_of_ok (outcome_lookUp k round n.name.text)

theorem outcome_visitAll (k : Kernel) (round : Nat) (nodes : List Node) :
    (k.visitAll round nodes : Run ε (List Entry)).outcome = .ok (k.entriesFrom round nodes) := by
  induction nodes generalizing round with
  | nil => rfl
  | cons n nodes ih =>
    rw [visitAll, outcome_bind_of_ok (outcome_visit k round n), outcome_bind_of_ok (ih (round + 1))]
    rfl

theorem outcome_entriesByList (list : k.list = .ok nodes) :
    k.entriesByList.outcome = .ok (k.entriesFrom 0 nodes) := by
  have given : ((Run.call .list k.list OsError.errno).mapError fun e =>
      Error.discovery "getifaddrs" (.errno e)).outcome = .ok nodes := by
    rw [outcome_mapError, outcome_call, list]
    rfl
  have work : (do
      let entries ← k.visitAll 0 nodes
      Run.note (.listed entries.length)
      return entries : Run Error (List Entry)).outcome = .ok (k.entriesFrom 0 nodes) :=
    outcome_bind_of_ok (outcome_visitAll k 0 nodes)
  rw [entriesByList, outcome_bind_of_ok given]
  split
  · exact work
  · rw [outcome_endingWith, work]

theorem entryAt_eq_some_iff :
    k.entryAt round n = some e ↔ ∃ unicast, n.address? = .ok unicast ∧
      ⟨n.name.text, k.indexFor round n.name.text, n.binding unicast⟩ = e := by
  rw [entryAt]
  cases n.address? <;> simp [Except.toOption]

theorem index_of_entryAt (found : k.entryAt round n = some e) :
    e.index = k.indexFor round e.name := by
  obtain ⟨unicast, -, rfl⟩ := entryAt_eq_some_iff.mp found
  rfl

theorem isIpv4_of_entryAt (found : k.entryAt round n = some e) : e.binding.isIpv4 = n.isIpv4 := by
  obtain ⟨unicast, given, rfl⟩ := entryAt_eq_some_iff.mp found
  obtain ⟨s, held, address⟩ := Option.bind_eq_some_iff.mp (Node.address?_eq_ok.mp given).1
  rw [Binding.isIpv4, Node.isIpv4, held]
  cases s <;> cases address <;> rfl

theorem mem_entriesFrom (member : e ∈ k.entriesFrom round nodes) :
    ∃ later, ∃ n ∈ nodes, k.entryAt later n = some e := by
  induction nodes generalizing round with
  | nil => cases member
  | cons n nodes ih =>
    rcases List.mem_append.mp member with here | behind
    · exact ⟨round, n, List.mem_cons_self, Option.mem_toList.mp here⟩
    · obtain ⟨later, m, listed, found⟩ := ih behind
      exact ⟨later, m, List.mem_cons_of_mem n listed, found⟩

/-- If the entries of the IPv4 nodes do not depend on the round, these are the IPv4 entries. -/
theorem filter_entriesFrom
    (steady : ∀ n ∈ nodes, n.isIpv4 = true → ∀ round, k.entryAt round n = k.entryAt 0 n) :
    (k.entriesFrom round nodes).filter (·.binding.isIpv4) =
      (nodes.filter (·.isIpv4)).filterMap (k.entryAt 0) := by
  induction nodes generalizing round with
  | nil => rfl
  | cons n nodes ih =>
    have later : ∀ m ∈ nodes, m.isIpv4 = true → ∀ round, k.entryAt round m = k.entryAt 0 m :=
      fun m listed => steady m (List.mem_cons_of_mem n listed)
    rw [entriesFrom, List.filter_append, ih later]
    cases kind : n.isIpv4 with
    | true =>
      rw [steady n List.mem_cons_self kind, List.filter_cons_of_pos kind]
      cases found : k.entryAt 0 n with
      | none => rw [List.filterMap_cons_none found]; rfl
      | some e =>
        rw [List.filterMap_cons_some found, Option.toList_some,
          List.filter_cons_of_pos (isIpv4_of_entryAt found ▸ kind)]
        rfl
    | false =>
      rw [List.filter_cons_of_neg (by simp [kind])]
      cases found : k.entryAt round n with
      | none => rfl
      | some e =>
        have other : e.binding.isIpv4 = false := isIpv4_of_entryAt found ▸ kind
        rw [Option.toList_some, List.filter_cons_of_neg (by simp [other])]
        rfl

end Kernel

end HostNet
