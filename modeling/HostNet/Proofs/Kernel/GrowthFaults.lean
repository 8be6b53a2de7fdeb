import Mathlib.Algebra.Group.Nat.Defs
import HostNet.Proofs.Kernel.Faults
import HostNet.Proofs.Kernel.GrowthCourse

/-!
The refused calls of a growing series of configuration calls. Refusals are passed over only while
nothing has succeeded; what ends the series otherwise is one call to blame, or a buffer too large to
be offered.
-/

namespace HostNet

namespace Growth

variable {α : Type} {blank : α} {capacity : Nat} {lastLength next : Option Nat}
  {answer : Except OsError (Filling α)} {buffer : Buffer α} {e : OsError}

/-- What a call may come to that is followed by another: it is granted, or its buffer is too small
and no call was granted before. -/
def Continues (lastLength next : Option Nat) (fault : Option OsError) : Prop :=
  (fault = none ∧ next ≠ none) ∨
    (fault = some (.errno .invalidArgument) ∧ lastLength = none ∧ next = none)

theorem judge_again_continues (again : judge blank capacity lastLength answer = .again next) :
    Continues lastLength next (fault answer) := by
  cases judge_again_iff.mp again with
  | tooSmall rest =>
    cases rest
    exact .inr ⟨rfl, rfl, rfl⟩
  | granted fresh rest =>
    cases rest
    exact .inl ⟨rfl, Option.some_ne_none _⟩

theorem judge_done_fault (done : judge blank capacity lastLength answer = .done (.ok buffer)) :
    fault answer = none := by
  obtain ⟨filling, rfl, -, -⟩ := judge_done_ok_iff.mp done
  rfl

theorem judge_done_blank (done : judge blank capacity lastLength answer = .done (.ok buffer)) :
    buffer.blank = blank := by
  obtain ⟨filling, -, -, rfl⟩ := judge_done_ok_iff.mp done
  rfl

theorem judge_done_error (done : judge blank capacity lastLength answer = .done (.error e)) :
    answer = .error e :=
  (judge_done_error_iff.mp done).1

variable {query : Nat → Nat → Except OsError (Filling α)} {attempt : Nat} {positive : 0 < capacity}

theorem blank_of_continueFrom
    (grown : (continueFrom query blank attempt capacity positive lastLength).outcome = .ok buffer) :
    buffer.blank = blank := by
  fun_induction continueFrom query blank attempt capacity positive lastLength with
  | case1 attempt capacity positive lastLength called outcome done =>
    cases grown
    exact judge_done_blank done
  | case2 attempt capacity positive lastLength called next again room rest ih => exact ih grown
  | case3 => cases grown

theorem call?_of_mem_continueFrom {s : Step}
    (member : s ∈ (continueFrom query blank attempt capacity positive lastLength).steps) :
    s.call? = none ∨ ∃ capacity, s.call? = some (.configuration capacity) := by
  fun_induction continueFrom query blank attempt capacity positive lastLength with
  | case1 attempt capacity positive lastLength called outcome done =>
    rw [List.mem_singleton.mp member]
    exact .inr ⟨capacity, rfl⟩
  | case2 attempt capacity positive lastLength called next again room rest ih =>
    rcases List.mem_cons.mp member with rfl | member
    · exact .inr ⟨capacity, rfl⟩
    rcases List.mem_cons.mp member with rfl | member
    · exact .inl rfl
    · exact ih member
  | case3 attempt capacity positive lastLength called next again full =>
    rw [List.mem_singleton.mp member]
    exact .inr ⟨capacity, rfl⟩

end Growth

/-- The refusals in a series of calls that remembers `lastLength`. After a success there are none. -/
structure Tolerated (lastLength : Option Nat) (steps : List Step) : Prop where
  excused : Excused steps
  granted : lastLength ≠ none → Granted steps

theorem Tolerated.of_granted {lastLength : Option Nat} {steps : List Step}
    (granted : Granted steps) : Tolerated lastLength steps :=
  ⟨granted.excused, fun _ => granted⟩

theorem Tolerated.noted {lastLength : Option Nat} {event : Event} {steps : List Step}
    (rest : Tolerated lastLength steps) : Tolerated lastLength (.noted event :: steps) where
  excused := rest.excused.cons (by simp) (by simp)
  granted known := .cons (by simp) (rest.granted known)

theorem Tolerated.called {capacity : Nat} {lastLength next : Option Nat} {fault : Option OsError}
    {steps : List Step} (continues : Growth.Continues lastLength next fault)
    (rest : Tolerated next steps) :
    Tolerated lastLength (.called (.configuration capacity) fault :: steps) := by
  rcases continues with ⟨rfl, known⟩ | ⟨rfl, rfl, rfl⟩
  · exact .of_granted (.cons (by simp) (rest.granted known))
  · refine ⟨rest.excused.cons ?_ (by simp), fun known => absurd rfl known⟩
    intro c f same
    cases same
    exact ⟨rfl, capacity, rfl⟩

namespace Kernel

/-- How a growing series of configuration calls ends: well, at a refused call, or before the offer
of a buffer whose octets cannot be counted. -/
inductive GrowthEnds (k : Kernel) (capacity : Nat) (lastLength : Option Nat) :
    List Step → Except OsError (Buffer Slot) → Prop
  | settled {steps : List Step} {buffer : Buffer Slot} : Tolerated lastLength steps →
    k.GrowthEnds capacity lastLength steps (.ok buffer)
  | refused {before : List Step} {offered : Nat} {fault : Errno} : Tolerated lastLength before →
    k.Refuses (.configuration offered) fault →
    k.GrowthEnds capacity lastLength
      (before ++ [.called (.configuration offered) (some (.errno fault))]) (.error (.errno fault))
  | full {steps : List Step} : Tolerated lastLength steps →
    Slot.countable (capacity * 2 ^ (steps.filterMap Step.call?).length) = false →
    k.GrowthEnds capacity lastLength steps (.error Growth.overflow)

variable {k : Kernel} {attempt capacity : Nat} {positive : 0 < capacity}
  {lastLength next : Option Nat} {fault : Option OsError} {event : Event} {steps : List Step}
  {outcome : Except OsError (Buffer Slot)} {blank : Slot}

theorem GrowthEnds.tolerated {buffer : Buffer Slot}
    (ends : k.GrowthEnds capacity lastLength steps (.ok buffer)) : Tolerated lastLength steps := by
  cases ends with
  | settled tolerated => exact tolerated

theorem GrowthEnds.again (continues : Growth.Continues lastLength next fault)
    (rest : k.GrowthEnds (capacity * 2) next steps outcome) :
    k.GrowthEnds capacity lastLength
      (.called (.configuration capacity) fault :: .noted event :: steps) outcome := by
  cases rest with
  | settled tolerated => exact .settled (tolerated.noted.called continues)
  | refused tolerated refuses =>
    rw [← List.cons_append, ← List.cons_append]
    exact .refused (tolerated.noted.called continues) refuses
  | full tolerated uncounted =>
    refine .full (tolerated.noted.called continues) ?_
    rw [Nat.mul_assoc, ← Nat.pow_succ'] at uncounted
    exact uncounted

@[simp] theorem reaches_noted (event : Event) : reaches (.noted event) = true := rfl

theorem offer_of_countable (room : Slot.countable capacity = true) {e : OsError}
    (failed : k.offer attempt capacity = .error e) :
    ∃ fault, e = .errno fault ∧ k.Refuses (.configuration capacity) fault := by
  rw [offer, if_pos room] at failed
  split at failed
  · cases failed
  · rename_i fault refused
    cases failed
    exact ⟨fault, rfl, .configuration refused⟩

theorem offer_of_not_countable (full : Slot.countable capacity = false) :
    k.offer attempt capacity = .error Growth.overflow := by
  rw [offer, full]
  rfl

theorem countable_of_again
    (again : Growth.judge blank capacity lastLength (k.offer attempt capacity) = .again next) :
    Slot.countable capacity = true := by
  cases room : Slot.countable capacity with
  | true => rfl
  | false =>
    rw [offer_of_not_countable room] at again
    simp [Growth.judge, Growth.overflow] at again

theorem GrowthEnds.of_done
    (done : Growth.judge blank capacity lastLength (k.offer attempt capacity) = .done outcome) :
    k.GrowthEnds capacity lastLength
      ([.called (.configuration capacity) (Growth.fault (k.offer attempt capacity))].filter reaches)
      outcome := by
  cases room : Slot.countable capacity with
  | true =>
    rw [List.filter_cons_of_pos (by exact room), List.filter_nil]
    cases outcome with
    | ok buffer =>
      rw [Growth.judge_done_fault done]
      exact .settled (.of_granted (.cons (by simp) .nil))
    | error e =>
      have failed := Growth.judge_done_error done
      obtain ⟨fault, rfl, refuses⟩ := offer_of_countable room failed
      rw [failed]
      exact .refused (.of_granted .nil) refuses
  | false =>
    have unmade : ¬ Slot.countable capacity = true := by simp [room]
    rw [List.filter_cons_of_neg (by exact unmade), List.filter_nil]
    rw [offer_of_not_countable room] at done
    have overflowed : outcome = .error Growth.overflow := by
      simpa [Growth.judge, Growth.overflow] using done.symm
    rw [overflowed]
    exact .full (.of_granted .nil) (by simpa using room)

/-- A capacity that cannot be doubled any more is far beyond what can be counted. -/
theorem not_countable_of_limit (full : ¬ capacity * 2 < Growth.limit) :
    Slot.countable (capacity * 2) = false := by
  have beyond : 18446744073709551616 ≤ capacity * 2 := Nat.le_of_not_lt full
  rw [Slot.countable, Slot.size, decide_eq_false_iff_not]
  omega

theorem growthEnds_continueFrom (k : Kernel) (blank : Slot) (attempt capacity : Nat)
    (positive : 0 < capacity) (lastLength : Option Nat) :
    k.GrowthEnds capacity lastLength
      ((Growth.continueFrom k.offer blank attempt capacity positive lastLength).steps.filter reaches)
      (Growth.continueFrom k.offer blank attempt capacity positive lastLength).outcome := by
  fun_induction Growth.continueFrom k.offer blank attempt capacity positive lastLength with
  | case1 attempt capacity positive lastLength called outcome done => exact .of_done done
  | case2 attempt capacity positive lastLength called next again below rest ih =>
    have reached : reaches called = true := countable_of_again again
    rw [List.filter_cons_of_pos reached, List.filter_cons_of_pos (reaches_noted _)]
    exact ih.again (Growth.judge_again_continues again)
  | case3 attempt capacity positive lastLength called next again full =>
    have reached : reaches called = true := countable_of_again again
    rw [List.filter_cons_of_pos reached, List.filter_nil]
    refine .full (.called (Growth.judge_again_continues again) (.of_granted .nil)) ?_
    exact not_countable_of_limit full

theorem growthEnds_slots (k : Kernel) (initial : Nat) :
    k.GrowthEnds (Growth.firstCapacity initial) none (k.slots initial).steps
      (k.slots initial).outcome :=
  growthEnds_continueFrom k Slot.blank 0 _ _ none

theorem blank_of_slots {initial : Nat} {buffer : Buffer Slot}
    (grown : (k.slots initial).outcome = .ok buffer) : buffer.blank = Slot.blank :=
  Growth.blank_of_continueFrom grown

theorem calls_slots {initial : Nat} {c : Call} (made : c ∈ (k.slots initial).calls) :
    ∃ capacity, c = .configuration capacity := by
  obtain ⟨s, member, same⟩ := List.mem_filterMap.mp made
  rcases Growth.call?_of_mem_continueFrom (List.mem_filter.mp member).1 with
    none | ⟨capacity, configuration⟩
  · rw [none] at same
    cases same
  · rw [configuration] at same
    cases same
    exact ⟨capacity, rfl⟩

end Kernel

end HostNet
