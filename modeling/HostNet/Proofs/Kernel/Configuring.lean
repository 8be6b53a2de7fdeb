import HostNet.Kernel.Configuration
import HostNet.Proofs.Kernel.Outcome

/-!
How enumeration through configuration calls ends: as the growth of the buffer does if that fails,
and otherwise as the requests about its slots do.
-/

namespace HostNet.Kernel

open Run

variable {k : Kernel} {initial : Nat} {buffer : Buffer Slot} {entries : List Entry} {e : OsError}

@[simp] theorem outcome_request {α : Type} (r : Request) (name : RawName) (a : α) :
    (request r name (.ok a)).outcome = .ok a := rfl

theorem outcome_entriesByConfiguration (socket : k.socketFault = none)
    (grown : (k.slots initial).outcome = .ok buffer)
    (inspected : (k.inspectAll 0 buffer.toList).outcome = .ok entries) :
    (k.entriesByConfiguration initial).outcome = .ok entries := by
  have filled : ((k.slots initial).mapError (Error.discovery "SIOCGIFCONF")).outcome =
      .ok buffer := by
    rw [outcome_mapError, grown]
    rfl
  rw [entriesByConfiguration, socket]
  simp only
  rw [outcome_bind_of_ok (outcome_answered _ _), outcome_endingWith, outcome_bind_of_ok filled,
    outcome_bind_of_ok inspected]
  rfl

theorem outcome_entriesByConfiguration_of_error (socket : k.socketFault = none)
    (failed : (k.slots initial).outcome = .error e) :
    (k.entriesByConfiguration initial).outcome = .error (.discovery "SIOCGIFCONF" e) := by
  have refused : ((k.slots initial).mapError (Error.discovery "SIOCGIFCONF")).outcome =
      .error (.discovery "SIOCGIFCONF" e) := by
    rw [outcome_mapError, failed]
    rfl
  rw [entriesByConfiguration, socket]
  simp only
  rw [outcome_bind_of_ok (outcome_answered _ _), outcome_endingWith, outcome_bind_of_error refused]

end HostNet.Kernel
