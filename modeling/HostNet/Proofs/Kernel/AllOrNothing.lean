import Mathlib.Data.List.Forall2
import HostNet.Proofs.Kernel.Configuring
import HostNet.Proofs.Kernel.GrowthFaults

/-!
The calls of an enumeration through configuration calls. It reports all entries or none: if any
request is refused there is only the error that names it, and otherwise the requests made are those
that the slots ask for, in order.
-/

namespace HostNet

/-- What looking into one slot comes to. -/
structure Inspection where
  calls : List Call
  entry : Option Entry

namespace Kernel

open Run

/-- How a slot is looked into where no request about it is refused. -/
inductive Inspected (k : Kernel) (round : Nat) (s : Slot) : Inspection → Prop
  | notIpv4 : (∀ octets, s.address ≠ .v4 octets) → k.Inspected round s ⟨[], none⟩
  | down {octets : Octets 4} {flags : Int16} : s.address = .v4 octets →
    k.flags round s.name = .ok flags → (InterfaceFlags.ofShort flags).isUp = false →
    k.Inspected round s ⟨[.request .flags s.name], none⟩
  | up {octets : Octets 4} {flags : Int16} {netmask : SocketAddress} {index : Int32} :
    s.address = .v4 octets →
    k.flags round s.name = .ok flags → (InterfaceFlags.ofShort flags).isUp = true →
    k.netmask round s.name = .ok netmask → (InterfaceFlags.ofShort flags).broadcasts = false →
    k.index round s.name = .ok index →
    k.Inspected round s
      ⟨[.request .flags s.name, .request .netmask s.name, .request .index s.name],
        some ⟨s.name.text, index.toUInt32, .v4 octets, netmask.unscoped?, none⟩⟩
  | broadcasting {octets : Octets 4} {flags : Int16} {netmask broadcast : SocketAddress}
      {index : Int32} : s.address = .v4 octets →
    k.flags round s.name = .ok flags → (InterfaceFlags.ofShort flags).isUp = true →
    k.netmask round s.name = .ok netmask → (InterfaceFlags.ofShort flags).broadcasts = true →
    k.broadcast round s.name = .ok broadcast → k.index round s.name = .ok index →
    k.Inspected round s
      ⟨[.request .flags s.name, .request .netmask s.name, .request .broadcast s.name,
          .request .index s.name],
        some ⟨s.name.text, index.toUInt32, .v4 octets, netmask.unscoped?, broadcast.unscoped?⟩⟩

/-- How slots are looked into in order, the first of them as slot number `round`. -/
def InspectedAll (k : Kernel) (round : Nat) (slots : List Slot) (inspections : List Inspection) :
    Prop :=
  List.Forall₂ (fun visited inspection => k.Inspected visited.2 visited.1 inspection)
    (slots.zipIdx round) inspections

variable {α β : Type} {k : Kernel} {round initial : Nat} {s : Slot} {slots : List Slot}
  {entry : Option Entry} {entries : List Entry} {buffer : Buffer Slot} {e : Error}

/-- A request that is granted is one call, and the work goes on with its answer. -/
theorem request_of_bind_ok {r : Request} {name : RawName} {answer : Except Errno α}
    {f : α → Run Error β} {b : β} (done : (request r name answer >>= f).outcome = .ok b) :
    ∃ a, answer = .ok a ∧ (f a).outcome = .ok b ∧
      (request r name answer >>= f).calls = .request r name :: (f a).calls := by
  cases answer with
  | ok a => exact ⟨a, rfl, done, rfl⟩
  | error e => cases done

theorem inspected_of_ok (done : (k.inspect round s).outcome = .ok entry) :
    k.Inspected round s ⟨(k.inspect round s).calls, entry⟩ := by
  unfold inspect at done ⊢
  cases address : s.address with
  | v4 octets =>
    simp only [address] at done ⊢
    obtain ⟨flags, answered, done, calls⟩ := request_of_bind_ok done
    rw [calls]
    by_cases up : (InterfaceFlags.ofShort flags).isUp = true
    · rw [if_pos up] at done ⊢
      obtain ⟨netmask, masked, done, calls⟩ := request_of_bind_ok done
      rw [calls]
      by_cases broadcasts : (InterfaceFlags.ofShort flags).broadcasts = true
      · rw [if_pos broadcasts] at done ⊢
        obtain ⟨broadcast, reached, done, calls⟩ := request_of_bind_ok done
        rw [calls]
        rw [bind_of_pure] at done ⊢
        obtain ⟨index, numbered, done, calls⟩ := request_of_bind_ok done
        rw [calls]
        cases done
        exact .broadcasting address answered up masked broadcasts reached numbered
      · rw [if_neg broadcasts, bind_of_pure] at done ⊢
        obtain ⟨index, numbered, done, calls⟩ := request_of_bind_ok done
        rw [calls]
        cases done
        exact .up address answered up masked (by simpa using broadcasts) numbered
    · rw [if_neg up] at done ⊢
      cases done
      exact .down address answered (by simpa using up)
  | v6 octets scope =>
    simp only [address] at done ⊢
    cases done
    exact .notIpv4 (by simp [address])
  | foreign family =>
    simp only [address] at done ⊢
    cases done
    exact .notIpv4 (by simp [address])

theorem inspectedAll_of_ok (done : (k.inspectAll round slots).outcome = .ok entries) :
    ∃ inspections, k.InspectedAll round slots inspections ∧
      (k.inspectAll round slots).calls = inspections.flatMap (·.calls) ∧
      entries = inspections.filterMap (·.entry) := by
  induction slots generalizing round entries with
  | nil =>
    cases done
    exact ⟨[], .nil, rfl, rfl⟩
  | cons s rest ih =>
    rw [inspectAll] at done ⊢
    obtain ⟨entry, looked, done⟩ := exists_of_bind_ok done
    obtain ⟨others, lookedOn, done⟩ := exists_of_bind_ok done
    cases done
    obtain ⟨inspections, inspected, calls, same⟩ := ih lookedOn
    refine ⟨⟨(k.inspect round s).calls, entry⟩ :: inspections,
      .cons (inspected_of_ok looked) inspected, ?_, ?_⟩
    · rw [calls_bind_of_ok looked, calls_bind_of_ok lookedOn, calls, List.flatMap_cons]
      exact congrArg _ (List.append_nil _)
    · rw [same]
      cases entry <;> rfl

/-! ### The whole enumeration -/

/-- What is done with the buffer that the configuration calls end with. -/
def examine (k : Kernel) (buffer : Buffer Slot) : Run Error (List Entry) := do
  let entries ← k.inspectAll 0 buffer.toList
  Run.note (.configured buffer.size entries.length)
  return entries

/-- What is done between the opening of the socket and its closing. -/
def enumeration (k : Kernel) (initial : Nat) : Run Error (List Entry) :=
  (k.slots initial).mapError (.discovery "SIOCGIFCONF") >>= k.examine

/-- A socket that was opened is closed at last. -/
def closing (k : Kernel) : List Step :=
  match k.socketFault with
  | some _ => []
  | none => [.called .closeSocket none]

/-- The entries come from looking into every slot of the buffer. Slots that the kernel counted and
did not write ask for nothing. -/
structure Enumerates (k : Kernel) (initial : Nat) (buffer : Buffer Slot)
    (inspections : List Inspection) (entries : List Entry) : Prop where
  socket : k.socketFault = none
  grown : (k.slots initial).outcome = .ok buffer
  growing : ∀ c ∈ (k.slots initial).calls, ∃ capacity, c = .configuration capacity
  inspected : k.InspectedAll 0 buffer.toList inspections
  untouched : ∀ round inspection, k.Inspected round buffer.blank inspection →
    inspection = ⟨[], none⟩
  calls : (k.entriesByConfiguration initial).calls = .openSocket :: (k.slots initial).calls ++
    inspections.flatMap (·.calls) ++ [.closeSocket]
  entries : entries = inspections.filterMap (·.entry)

theorem inspected_blank {inspection : Inspection}
    (inspected : k.Inspected round Slot.blank inspection) : inspection = ⟨[], none⟩ := by
  cases inspected with
  | notIpv4 => rfl
  | down given => cases given
  | up given => cases given
  | broadcasting given => cases given

theorem tells_examine (k : Kernel) (buffer : Buffer Slot) : k.Tells (k.examine buffer) := by
  refine (tells_inspectAll k 0 buffer.toList).bind fun _ _ => ?_
  exact (tells_note k _).bind fun _ _ => tells_pure k _

theorem examined_of_ok (done : (k.examine buffer).outcome = .ok entries) :
    ∃ inspections, k.InspectedAll 0 buffer.toList inspections ∧
      (k.examine buffer).calls = inspections.flatMap (·.calls) ∧
      entries = inspections.filterMap (·.entry) := by
  rw [examine] at done ⊢
  obtain ⟨found, looked, done⟩ := exists_of_bind_ok done
  cases done
  obtain ⟨inspections, inspected, calls, same⟩ := inspectedAll_of_ok looked
  refine ⟨inspections, inspected, ?_, same⟩
  rw [calls_bind_of_ok looked, calls]
  exact List.append_nil _

theorem entriesByConfiguration_of_open (socket : k.socketFault = none) :
    k.entriesByConfiguration initial =
      ⟨.called .openSocket none :: ((k.enumeration initial).steps ++ [.called .closeSocket none]),
        (k.enumeration initial).outcome⟩ := by
  rw [entriesByConfiguration, socket]
  rfl

/-- If the growth ends well, the rest of the enumeration is what is done with the buffer. -/
theorem enumeration_of_grown (grown : (k.slots initial).outcome = .ok buffer) :
    k.enumeration initial =
      ⟨(k.slots initial).steps ++ (k.examine buffer).steps, (k.examine buffer).outcome⟩ := by
  have filled : ((k.slots initial).mapError (Error.discovery "SIOCGIFCONF")).outcome =
      .ok buffer := by
    rw [outcome_mapError, grown]
    rfl
  change Run.bind _ _ = _
  rw [Run.bind, filled]
  rfl

theorem enumeration_of_not_grown {e : OsError} (failed : (k.slots initial).outcome = .error e) :
    k.enumeration initial = ⟨(k.slots initial).steps, .error (.discovery "SIOCGIFCONF" e)⟩ := by
  have refused : ((k.slots initial).mapError (Error.discovery "SIOCGIFCONF")).outcome =
      .error (.discovery "SIOCGIFCONF" e) := by
    rw [outcome_mapError, failed]
    rfl
  change Run.bind _ _ = _
  rw [Run.bind, refused]
  rfl

/-- Between the opening and the closing of the socket, a buffer that is too small is excused at
first, and any other refusal is the end. -/
theorem enumeration_refused (failed : (k.enumeration initial).outcome = .error e) :
    k.Blames Excused (k.enumeration initial).steps e ∨
      (e = .discovery "SIOCGIFCONF" Growth.overflow ∧ Excused (k.enumeration initial).steps ∧
        Slot.countable (Growth.firstCapacity initial * 2 ^ (k.slots initial).calls.length) =
          false) := by
  have ends := growthEnds_slots k initial
  cases grown : (k.slots initial).outcome with
  | ok buffer =>
    rw [enumeration_of_grown grown] at failed ⊢
    rw [grown] at ends
    have excused := ends.tolerated.excused
    exact .inl (((tells_examine k buffer).refused e failed).after fun _ => excused.append)
  | error fault =>
    rw [enumeration_of_not_grown grown] at failed ⊢
    cases failed
    rw [grown] at ends
    generalize taken : (k.slots initial).steps = steps at ends ⊢
    cases ends with
    | refused tolerated refuses =>
      exact .inl ⟨_, _, _, rfl, rfl, refuses, tolerated.excused⟩
    | full tolerated uncounted =>
      refine .inr ⟨rfl, tolerated.excused, ?_⟩
      rw [calls, taken]
      exact uncounted

theorem enumeration_granted (done : (k.enumeration initial).outcome = .ok entries) :
    ∃ buffer, (k.slots initial).outcome = .ok buffer ∧
      (k.examine buffer).outcome = .ok entries ∧ Excused (k.enumeration initial).steps := by
  have ends := growthEnds_slots k initial
  cases grown : (k.slots initial).outcome with
  | ok buffer =>
    rw [enumeration_of_grown grown] at done ⊢
    rw [grown] at ends
    have granted := (tells_examine k buffer).granted entries done
    exact ⟨buffer, rfl, done, ends.tolerated.excused.append granted⟩
  | error fault =>
    rw [enumeration_of_not_grown grown] at done
    cases done

theorem entriesByConfiguration_of_refused {fault : Errno} (socket : k.socketFault = some fault) :
    k.entriesByConfiguration initial =
      ⟨[.called .openSocket (some (.errno fault))], .error (.discovery "socket" (.errno fault))⟩ := by
  rw [entriesByConfiguration, socket]

theorem socket_of_ok (done : (k.entriesByConfiguration initial).outcome = .ok entries) :
    k.socketFault = none := by
  cases socket : k.socketFault with
  | none => rfl
  | some fault =>
    rw [entriesByConfiguration_of_refused socket] at done
    cases done

theorem granted_close : Granted [.called .closeSocket none] :=
  .cons (by simp) .nil

theorem enumerates_of_ok (done : (k.entriesByConfiguration initial).outcome = .ok entries) :
    Excused (k.entriesByConfiguration initial).steps ∧
      ∃ buffer inspections, k.Enumerates initial buffer inspections entries := by
  have socket := socket_of_ok done
  rw [entriesByConfiguration_of_open socket] at done
  obtain ⟨buffer, grown, examined, excused⟩ := enumeration_granted done
  obtain ⟨inspections, inspected, made, same⟩ := examined_of_ok examined
  constructor
  · rw [entriesByConfiguration_of_open socket]
    exact (excused.append granted_close).opened
  · refine ⟨buffer, inspections, ?_⟩
    exact {
      socket := socket
      grown := grown
      growing := fun _ => calls_slots
      inspected := inspected
      untouched := fun round inspection looked => inspected_blank (blank_of_slots grown ▸ looked)
      calls := by
        rw [entriesByConfiguration_of_open socket, ← made, enumeration_of_grown grown]
        simp [calls, Step.call?]
      entries := same }

theorem blames_of_refused {fault : Errno} (socket : k.socketFault = some fault)
    (failed : (k.entriesByConfiguration initial).outcome = .error e) :
    k.Blames Excused (k.entriesByConfiguration initial).steps e := by
  rw [entriesByConfiguration_of_refused socket] at failed ⊢
  cases failed
  exact ⟨[], .openSocket, fault, rfl, rfl, .openSocket socket, Granted.nil.excused⟩

/-- An enumeration through configuration calls reports all entries or none. If it ends well, every
request that the slots ask for was made and granted. If it fails, the error names the refused call
that ended it, and only the socket is still closed, unless no larger buffer could be offered. -/
theorem configuration_all_or_nothing (k : Kernel) (initial : Nat) :
    (∀ entries, (k.entriesByConfiguration initial).outcome = .ok entries →
      Excused (k.entriesByConfiguration initial).steps ∧
        ∃ buffer inspections, k.Enumerates initial buffer inspections entries) ∧
    ∀ e, (k.entriesByConfiguration initial).outcome = .error e →
      (∃ steps, (k.entriesByConfiguration initial).steps = steps ++ k.closing ∧
        k.Blames Excused steps e) ∨
      (e = .discovery "SIOCGIFCONF" Growth.overflow ∧
        Excused (k.entriesByConfiguration initial).steps ∧
        Slot.countable (Growth.firstCapacity initial * 2 ^ (k.slots initial).calls.length) =
          false) := by
  refine ⟨fun entries => enumerates_of_ok, fun e failed => ?_⟩
  cases socket : k.socketFault with
  | some fault =>
    rw [closing, socket]
    exact .inl ⟨_, (List.append_nil _).symm, blames_of_refused socket failed⟩
  | none =>
    rw [entriesByConfiguration_of_open socket] at failed ⊢
    rcases enumeration_refused failed with blames | ⟨rfl, excused, uncounted⟩
    · rw [closing, socket]
      exact .inl ⟨_, rfl, blames.opened⟩
    · exact .inr ⟨rfl, (excused.append granted_close).opened, uncounted⟩

/-- A kernel that gives a socket and then refuses everything. -/
def refusing : Kernel where
  list := .error ⟨5⟩
  indexOf _ _ := 0
  socketFault := none
  configuration _ _ := .error ⟨5⟩
  flags _ _ := .error ⟨5⟩
  netmask _ _ := .error ⟨5⟩
  broadcast _ _ := .error ⟨5⟩
  index _ _ := .error ⟨5⟩

/-- The refused call is not the last one: the socket is closed after it. -/
theorem refusal_before_close :
    (refusing.entriesByConfiguration 1).outcome = .error (.discovery "SIOCGIFCONF" (.errno ⟨5⟩)) ∧
    (refusing.entriesByConfiguration 1).steps =
      [.called .openSocket none, .called (.configuration 1) (some (.errno ⟨5⟩)),
        .called .closeSocket none] ∧
    ¬ refusing.Blames Excused (refusing.entriesByConfiguration 1).steps
      (.discovery "SIOCGIFCONF" (.errno ⟨5⟩)) := by
  have steps : (refusing.entriesByConfiguration 1).steps =
      [.called .openSocket none, .called (.configuration 1) (some (.errno ⟨5⟩)),
        .called .closeSocket none] := by
    cbv
  refine ⟨by cbv, steps, ?_⟩
  rintro ⟨before, call, fault, split, -⟩
  have last := congrArg List.getLast? (steps.symm.trans split)
  rw [List.getLast?_concat] at last
  cases last

end Kernel

end HostNet
