import HostNet.Interface.Basic
import HostNet.Kernel.Growth

/-!
Enumeration through configuration calls, which know IPv4 only. A buffer of interface slots is grown
until it is surely complete; then the flags, netmask, broadcast address and index of each interface
are asked for by name. One refusal ends it all. The control socket is closed in any case.
-/

namespace HostNet

/-- Flags as a configuration request gives them, widened with their sign. -/
def InterfaceFlags.ofShort (flags : Int16) : InterfaceFlags :=
  flags.toInt32.toUInt32

/-- Whether the octets of that many slots can be counted: a call takes their count as a 32-bit
number with a sign. -/
def Slot.countable (capacity : Nat) : Bool :=
  capacity * Slot.size < 2147483648

namespace Kernel

def request {α : Type} (r : Request) (name : RawName) (answer : Except Errno α) : Run Error α :=
  (Run.call (.request r name) answer OsError.errno).mapError fun e =>
    .discovery r.name (.errno e)

/-- What one slot comes to: nothing for interfaces that are down and addresses that are not
IPv4. -/
def inspect (k : Kernel) (round : Nat) (s : Slot) : Run Error (Option Entry) :=
  match s.address with
  | .v4 octets => do
    let flags ← request .flags s.name (k.flags round s.name)
    let flags := InterfaceFlags.ofShort flags
    if flags.isUp then
      let netmask ← request .netmask s.name (k.netmask round s.name)
      let broadcast ←
        if flags.broadcasts then do
          let broadcast ← request .broadcast s.name (k.broadcast round s.name)
          pure broadcast.unscoped?
        else pure none
      let index ← request .index s.name (k.index round s.name)
      return some ⟨s.name.text, index.toUInt32, .v4 octets, netmask.unscoped?, broadcast⟩
    else
      Run.note (.down s.name.text)
      return none
  | other => do
    Run.note (.notIpv4 s.name.text other.familyNumber)
    return none

def inspectAll (k : Kernel) (round : Nat) : List Slot → Run Error (List Entry)
  | [] => return []
  | s :: rest => do
    let entry ← k.inspect round s
    let entries ← k.inspectAll (round + 1) rest
    return entry.toList ++ entries

/-- A configuration as the filling of a buffer: a negative length counts as zero, and a part of a
slot does not count. -/
def filling (c : Configuration) : Filling Slot :=
  ⟨c.octets.toNat / Slot.size, c.slots⟩

/-- The answer to an offer of room for `capacity` slots. Room that cannot be counted is refused
before the kernel is asked. -/
def offer (k : Kernel) (attempt capacity : Nat) : Except OsError (Filling Slot) :=
  if Slot.countable capacity then
    match k.configuration attempt capacity with
    | .ok c => .ok (filling c)
    | .error e => .error (.errno e)
  else .error Growth.overflow

/-- Room that cannot be counted makes no call. -/
def reaches : Step → Bool
  | .called (.configuration capacity) _ => Slot.countable capacity
  | _ => true

def slots (k : Kernel) (initial : Nat) : Run OsError (Buffer Slot) :=
  let r := Growth.run k.offer Slot.blank initial
  ⟨r.steps.filter reaches, r.outcome⟩

/-- The entries found through configuration calls, the first with room for `initial` slots. -/
def entriesByConfiguration (k : Kernel) (initial : Nat) : Run Error (List Entry) :=
  match k.socketFault with
  | some e => ⟨[.called .openSocket (some (.errno e))], .error (.discovery "socket" (.errno e))⟩
  | none => do
    Run.answered .openSocket ()
    let work : Run Error (List Entry) := do
      let buffer ← (k.slots initial).mapError (.discovery "SIOCGIFCONF")
      let entries ← k.inspectAll 0 buffer.toList
      Run.note (.configured buffer.size entries.length)
      return entries
    work.endingWith .closeSocket

end Kernel

end HostNet
