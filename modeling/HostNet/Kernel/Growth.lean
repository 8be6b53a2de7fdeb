import HostNet.Kernel.Run

/-!
A buffer for a result of unknown size. The buffer is doubled until two successful calls in a row
report the same length; an invalid argument before the first success only says that the buffer was
too small. Since capacities stay below 2⁶⁴, the doubling ends.
-/

namespace HostNet

/-- A buffer of which the first slots may have been written; all others hold `blank`. -/
structure Buffer (α : Type) where
  size : Nat
  blank : α
  written : List α
  deriving DecidableEq, Repr

def Buffer.toList {α : Type} (b : Buffer α) : List α :=
  b.written.take b.size ++ List.replicate (b.size - b.written.length) b.blank

/-- What a call does to the buffer it is given: the slots it writes, from the first on, and the
number of slots it reports. -/
structure Filling (α : Type) where
  reported : Nat
  written : List α
  deriving DecidableEq, Repr

namespace Growth

def limit : Nat := UInt64.size

def overflow : OsError := .custom "interface buffer size overflow"

/-- What follows from one answer: the end, or another call that remembers a length. -/
inductive Verdict (α : Type) where
  | done (outcome : Except OsError (Buffer α))
  | again (lastLength : Option Nat)

variable {α : Type}

/-- Judges the answer of a call with room for `capacity` slots, given the length reported before. -/
def judge (blank : α) (capacity : Nat) (lastLength : Option Nat) :
    Except OsError (Filling α) → Verdict α
  | .ok filling =>
    if lastLength = some filling.reported then
      .done (.ok ⟨min filling.reported capacity, blank, filling.written⟩)
    else .again (some filling.reported)
  | .error e =>
    if lastLength = none ∧ e = .errno .invalidArgument then .again none else .done (.error e)

def fault : Except OsError (Filling α) → Option OsError
  | .ok _ => none
  | .error e => some e

/-- The calls from number `attempt` on. `query` gives the answer to a call by its number and the
capacity it is offered. -/
def continueFrom (query : Nat → Nat → Except OsError (Filling α)) (blank : α)
    (attempt capacity : Nat) (positive : 0 < capacity) (lastLength : Option Nat) :
    Run OsError (Buffer α) :=
  let called := Step.called (.configuration capacity) (fault (query attempt capacity))
  match judge blank capacity lastLength (query attempt capacity) with
  | .done outcome => ⟨[called], outcome⟩
  | .again lastLength =>
    if capacity * 2 < limit then
      let rest :=
        continueFrom query blank (attempt + 1) (capacity * 2) (by omega) lastLength
      ⟨called :: .noted (.grown (capacity * 2) lastLength) :: rest.steps, rest.outcome⟩
    else ⟨[called], .error overflow⟩
termination_by limit - capacity

def firstCapacity (initial : Nat) : Nat :=
  max initial 1

def run (query : Nat → Nat → Except OsError (Filling α)) (blank : α) (initial : Nat) :
    Run OsError (Buffer α) :=
  continueFrom query blank 0 (firstCapacity initial) (by unfold firstCapacity; omega) none

end Growth

end HostNet
