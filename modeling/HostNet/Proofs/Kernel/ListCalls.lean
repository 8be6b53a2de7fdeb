import Mathlib.Data.List.Forall2
import HostNet.Proofs.Kernel.Listing
import HostNet.Proofs.Kernel.Steps
import HostNet.Proofs.Text.ZeroFree

/-!
The calls of an enumeration through the kernel's list. A list that was given is freed once, after
everything else; in between, one index is asked for per entry, and passed over nodes ask for
nothing.
-/

namespace HostNet

/-- Nodes that an enumeration reports: those of interfaces that are up, by the lowest bit of their
flags, with an IPv4 or IPv6 address. -/
def Node.isReported (n : Node) : Bool :=
  match n.address with
  | some (.v4 _) => n.flags.toNat.testBit 0
  | some (.v6 _ _) => n.flags.toNat.testBit 0
  | _ => false

theorem InterfaceFlags.isUp_eq (flags : InterfaceFlags) : flags.isUp = flags.toNat.testBit 0 := by
  have low : flags &&& 1 ≠ 0 ↔ flags.toNat % 2 = 1 := by
    rw [ne_eq, ← UInt32.toNat_inj, UInt32.toNat_and]
    change ¬ flags.toNat &&& 1 = 0 ↔ _
    rw [Nat.and_one_is_mod]
    omega
  rw [isUp, Nat.testBit_zero, decide_eq_decide]
  exact low

namespace Kernel

open Run

/-- An entry stands for a node that is visited in the given round, with the index that the kernel
then gives to its name. -/
structure Reports (k : Kernel) (visited : Node × Nat) (e : Entry) : Prop where
  name : e.name = visited.1.name.text
  index : e.index = k.indexOf visited.2 (Utf8.ofString e.name)
  address : visited.1.address.bind (·.address?) = some e.binding.unicast
  binding : e.binding = visited.1.binding e.binding.unicast

def indexCall (e : Entry) : Call :=
  .indexOf (Utf8.ofString e.name)

variable {ε : Type} {k : Kernel} {nodes : List Node} {n : Node} {round : Nat} {fault : Errno}

/-- The text of a name has no zero, so its index is never guessed. -/
theorem lookUp_text (k : Kernel) (round : Nat) (name : RawName) :
    (k.lookUp round name.text : Run ε UInt32) =
      .answered (.indexOf (Utf8.ofString name.text)) (k.indexOf round (Utf8.ofString name.text)) :=
  if_neg name.zero_not_mem_text

theorem indexFor_name (k : Kernel) (round : Nat) (name : RawName) :
    k.indexFor round name.text = k.indexOf round (Utf8.ofString name.text) :=
  if_neg name.zero_not_mem_text

theorem calls_visit (k : Kernel) (round : Nat) (n : Node) :
    (k.visit round n : Run ε (Option Entry)).calls =
      (k.entryAt round n).toList.map indexCall := by
  rw [visit, entryAt]
  cases n.address? with
  | error event => rfl
  | ok unicast =>
    simp only [lookUp_text]
    rw [calls_bind_of_ok (outcome_answered _ _)]
    rfl

theorem calls_visitAll (k : Kernel) (round : Nat) (nodes : List Node) :
    (k.visitAll round nodes : Run ε (List Entry)).calls =
      (k.entriesFrom round nodes).map indexCall := by
  induction nodes generalizing round with
  | nil => rfl
  | cons n rest ih =>
    rw [visitAll, calls_bind_of_ok (outcome_visit k round n), calls_visit,
      calls_bind_of_ok (outcome_visitAll k (round + 1) rest), ih, entriesFrom, List.map_append]
    exact congrArg _ (List.append_nil _)

theorem isReported_iff : n.isReported = true ↔ ∃ a, n.address? = .ok a := by
  simp only [Node.address?_eq_ok, InterfaceFlags.isUp_eq]
  rw [Node.isReported]
  cases n.address with
  | none => simp
  | some s => cases s <;> simp [SocketAddress.address?]

theorem reports_of_entryAt {e : Entry} (found : k.entryAt round n = some e) :
    k.Reports (n, round) e := by
  obtain ⟨unicast, given, rfl⟩ := entryAt_eq_some_iff.mp found
  exact ⟨rfl, indexFor_name k round n.name, (Node.address?_eq_ok.mp given).1, rfl⟩

theorem entriesFrom_report (k : Kernel) (round : Nat) (nodes : List Node) :
    List.Forall₂ k.Reports ((nodes.zipIdx round).filter (·.1.isReported))
      (k.entriesFrom round nodes) := by
  induction nodes generalizing round with
  | nil => exact .nil
  | cons n rest ih =>
    rw [List.zipIdx_cons, entriesFrom]
    cases found : k.entryAt round n with
    | none =>
      have skipped : ¬ n.isReported = true := by
        intro reported
        obtain ⟨unicast, given⟩ := isReported_iff.mp reported
        rw [entryAt, given] at found
        cases found
      rw [List.filter_cons, if_neg skipped]
      exact ih (round + 1)
    | some e =>
      obtain ⟨unicast, given, -⟩ := entryAt_eq_some_iff.mp found
      rw [List.filter_cons, if_pos (isReported_iff.mpr ⟨unicast, given⟩)]
      exact .cons (reports_of_entryAt found) (ih (round + 1))

theorem entriesByList_of_error (failed : k.list = .error fault) :
    k.entriesByList.calls = [.list] ∧
      k.entriesByList.outcome = .error (.discovery "getifaddrs" (.errno fault)) := by
  have refused : ((Run.call .list k.list OsError.errno).mapError fun e =>
      Error.discovery "getifaddrs" (.errno e)) =
      ⟨[.called .list (some (.errno fault))], .error (.discovery "getifaddrs" (.errno fault))⟩ := by
    rw [failed]
    rfl
  rw [entriesByList, refused]
  exact ⟨calls_bind_of_error rfl, outcome_bind_of_error rfl⟩

theorem calls_entriesByList (given : k.list = .ok nodes) :
    k.entriesByList.calls = .list :: (k.entriesFrom 0 nodes).map indexCall ++
      (if nodes.isEmpty then [] else [.freeList]) := by
  have fetched : ((Run.call .list k.list OsError.errno).mapError fun e =>
      Error.discovery "getifaddrs" (.errno e)) = ⟨[.called .list none], .ok nodes⟩ := by
    rw [given]
    rfl
  have work : (do
      let entries ← k.visitAll 0 nodes
      Run.note (.listed entries.length)
      return entries : Run Error (List Entry)).calls =
        (k.entriesFrom 0 nodes).map indexCall := by
    rw [calls_bind_of_ok (outcome_visitAll k 0 nodes), calls_visitAll]
    exact List.append_nil _
  rw [entriesByList, fetched, calls_bind_of_ok rfl]
  split
  · rw [work, List.append_nil]
    rfl
  · rw [calls_endingWith, work]
    rfl

/-- Every call that an enumeration through the list makes, and what it finds. A list that is refused
or has no nodes is left alone. Any other is freed by the last call, and each node that is reported
gives one entry and one call for its index, in the order of the list. No index is guessed. -/
theorem list_calls_and_entries (k : Kernel) :
    (match k.list with
      | .error fault =>
        k.entriesByList.calls = [.list] ∧
          k.entriesByList.outcome = .error (.discovery "getifaddrs" (.errno fault))
      | .ok [] => k.entriesByList.calls = [.list] ∧ k.entriesByList.outcome = .ok []
      | .ok nodes =>
        ∃ entries, k.entriesByList.outcome = .ok entries ∧
          k.entriesByList.calls = .list :: entries.map indexCall ++ [.freeList] ∧
          List.Forall₂ k.Reports (nodes.zipIdx.filter (·.1.isReported)) entries) ∧
    ∀ (round : Nat) (name : RawName), 0 ∉ Utf8.ofString name.text ∧
      (k.lookUp round name.text : Run Error UInt32) =
        .answered (.indexOf (Utf8.ofString name.text))
          (k.indexOf round (Utf8.ofString name.text)) := by
  refine ⟨?_, fun round name => ⟨name.zero_not_mem_text, lookUp_text k round name⟩⟩
  cases list : k.list with
  | error fault => exact entriesByList_of_error list
  | ok nodes =>
    have found := outcome_entriesByList list
    have made := calls_entriesByList list
    cases nodes with
    | nil => exact ⟨made, found⟩
    | cons n rest => exact ⟨_, found, made, entriesFrom_report k 0 (n :: rest)⟩

/-- The kernel that has these nodes in its list and these indexes, and gives no socket. -/
def ofList (nodes : List Node) (index : RawName → UInt32) : Kernel where
  list := .ok nodes
  indexOf _ := index
  socketFault := some ⟨97⟩
  configuration _ _ := .error ⟨19⟩
  flags _ _ := .error ⟨19⟩
  netmask _ _ := .error ⟨19⟩
  broadcast _ _ := .error ⟨19⟩
  index _ _ := .error ⟨19⟩

/-- Two interfaces of which only the first one is up. -/
def cabled : List Node :=
  [⟨[0x65, 0x74, 0x68, 0x30], 0x1043, some (.v4 #v[10, 0, 3, 1]), none, none⟩,
    ⟨[0x77, 0x6c, 0x61, 0x6e, 0x30], 0x1002, some (.v4 #v[10, 0, 3, 2]), none, none⟩,
    ⟨[0x65, 0x74, 0x68, 0x30], 0x1043, some (.foreign 17), none, none⟩,
    ⟨[0x65, 0x74, 0x68, 0x30], 0x1043,
      some (.v6 #v[0xfe, 0x80, 0, 0, 0, 0, 0, 0, 0, 0, 0, 0, 0, 0, 0, 9] 2), none, none⟩]

theorem list_calls_and_entries_cabled :
    ∃ first last, (ofList cabled fun _ => 2).entriesByList.outcome = .ok [first, last] ∧
      (ofList cabled fun _ => 2).entriesByList.calls =
        [.list, indexCall first, indexCall last, .freeList] ∧
      (ofList cabled fun _ => 2).Reports (cabled[0], 0) first ∧
      (ofList cabled fun _ => 2).Reports (cabled[3], 3) last := by
  obtain ⟨entries, found, made, reports⟩ := (list_calls_and_entries (ofList cabled fun _ => 2)).1
  have up : cabled.zipIdx.filter (·.1.isReported) = [(cabled[0], 0), (cabled[3], 3)] := by
    decide
  change List.Forall₂ _ (cabled.zipIdx.filter (·.1.isReported)) entries at reports
  rw [up] at reports
  cases reports with
  | @cons _ first _ _ head tail =>
    cases tail with
    | @cons _ last _ _ next none =>
      cases none
      exact ⟨first, last, found, made, head, next⟩

end Kernel

end HostNet
