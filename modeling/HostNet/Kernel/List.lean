import HostNet.Interface.Basic
import HostNet.Kernel.Run

/-!
Enumeration through the kernel's list of interface addresses. The list is fetched once, walked from
end to end, and freed; the index of an interface is asked for once per entry that is found.
-/

namespace HostNet

/-- The address of a node, or why the node is passed over. -/
def Node.address? (n : Node) : Except Event Address :=
  match n.address with
  | none => .error (.withoutAddress n.name.text)
  | some s =>
    match s.address? with
    | none => .error (.foreignFamily n.name.text s.familyNumber)
    | some a => if n.flags.isUp then .ok a else .error (.down n.name.text)

/-- The binding of a node to the given address. Netmask and broadcast address have no scope. -/
def Node.binding (n : Node) (unicast : Address) : Binding where
  unicast := unicast
  netmask := n.netmask.bind (·.unscoped?)
  broadcast := if n.flags.broadcasts then n.broadcast.bind (·.unscoped?) else none

namespace Kernel

variable {ε : Type}

/-- Asks for the index of a name. A name with a zero octet inside cannot be asked about and has
index zero. -/
def lookUp (k : Kernel) (round : Nat) (name : String) : Run ε UInt32 :=
  let octets := Utf8.ofString name
  if 0 ∈ octets then pure 0
  else Run.answered (.indexOf octets) (k.indexOf round octets)

def visit (k : Kernel) (round : Nat) (n : Node) : Run ε (Option Entry) :=
  match n.address? with
  | .error event => do
    Run.note event
    return none
  | .ok unicast => do
    let index ← k.lookUp round n.name.text
    return some ⟨n.name.text, index, n.binding unicast⟩

def visitAll (k : Kernel) (round : Nat) : List Node → Run ε (List Entry)
  | [] => return []
  | n :: rest => do
    let entry ← k.visit round n
    let entries ← k.visitAll (round + 1) rest
    return entry.toList ++ entries

/-- The entries of the kernel's list. Only a list that has nodes is freed. -/
def entriesByList (k : Kernel) : Run Error (List Entry) := do
  let nodes ← (Run.call .list k.list OsError.errno).mapError fun e =>
    .discovery "getifaddrs" (.errno e)
  let work : Run Error (List Entry) := do
    let entries ← k.visitAll 0 nodes
    Run.note (.listed entries.length)
    return entries
  if nodes.isEmpty then work else work.endingWith .freeList

end Kernel

end HostNet
