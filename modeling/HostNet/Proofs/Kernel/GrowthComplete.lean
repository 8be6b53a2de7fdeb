import HostNet.Proofs.Kernel.GrowthCourse

/-!
A buffer that a growing series of calls ends with is complete. The number of entries may change
between any two calls; what rules out truncation is that a remembered length never exceeds half of
the next capacity.
-/

namespace HostNet.Growth

variable {α : Type}

/-- An answer that writes as many of the entries present as fit, and reports just these. An error
is such an answer too. -/
def FillsWhatFits (present capacity : Nat) (answer : Except OsError (Filling α)) : Prop :=
  ∀ filling, answer = .ok filling →
    filling.written.length = min present capacity ∧ filling.reported = min present capacity

/-- The remembered length came from a buffer of half the capacity. -/
def Halved (lastLength : Option Nat) (capacity : Nat) : Prop :=
  ∀ length, lastLength = some length → length * 2 ≤ capacity

theorem Halved.none (capacity : Nat) : Halved none capacity := by
  intro length remembered
  cases remembered

/-- The slots are those that the filling wrote, and they are all the entries there were. -/
structure Complete (present capacity : Nat) (filling : Filling α) (buffer : Buffer α) : Prop where
  slots : buffer.toList = filling.written
  count : buffer.toList.length = present
  spare : present < capacity

theorem judge_again_halved {blank : α} {present capacity : Nat} {lastLength next : Option Nat}
    {answer : Except OsError (Filling α)} (fills : FillsWhatFits present capacity answer)
    (again : judge blank capacity lastLength answer = .again next) :
    Halved next (capacity * 2) := by
  cases judge_again_iff.mp again with
  | tooSmall rest =>
    cases rest
    exact .none _
  | @granted _ _ _ filling fresh rest =>
    cases rest
    have reported := (fills filling rfl).2
    intro length remembered
    cases remembered
    omega

/-- A length that is reported twice was below the second capacity, so nothing was cut off. -/
theorem judge_done_complete {blank : α} {present capacity : Nat} {lastLength : Option Nat}
    {answer : Except OsError (Filling α)} {buffer : Buffer α} (positive : 0 < capacity)
    (fills : FillsWhatFits present capacity answer) (halved : Halved lastLength capacity)
    (done : judge blank capacity lastLength answer = .done (.ok buffer)) :
    ∃ filling, answer = .ok filling ∧ Complete present capacity filling buffer := by
  obtain ⟨filling, rfl, repeated, rfl⟩ := judge_done_ok_iff.mp done
  obtain ⟨written, reported⟩ := fills filling rfl
  have half := halved _ repeated
  have spare : present < capacity := by omega
  have size : min filling.reported capacity = filling.written.length := by omega
  have slots := Buffer.toList_of_size blank filling.written
  rw [size]
  exact ⟨filling, rfl, slots, by rw [slots]; omega, spare⟩

theorem continueFrom_complete (query : Nat → Nat → Except OsError (Filling α)) (blank : α)
    (present : Nat → Nat) (buffer : Buffer α) (attempt capacity : Nat) (positive : 0 < capacity)
    (lastLength : Option Nat) (halved : Halved lastLength capacity)
    (fills : ∀ k c,
      (continueFrom query blank attempt capacity positive lastLength).calls[k]? =
        some (.configuration c) → FillsWhatFits (present (attempt + k)) c (query (attempt + k) c))
    (converged :
      (continueFrom query blank attempt capacity positive lastLength).outcome = .ok buffer) :
    ∃ last c filling,
      (continueFrom query blank attempt capacity positive lastLength).calls.length = last + 1 ∧
      (continueFrom query blank attempt capacity positive lastLength).calls[last]? =
        some (.configuration c) ∧
      query (attempt + last) c = .ok filling ∧
      Complete (present (attempt + last)) c filling buffer := by
  fun_induction continueFrom query blank attempt capacity positive lastLength with
  | case1 attempt capacity positive lastLength called outcome done =>
    cases converged
    have first := fills 0 capacity rfl
    obtain ⟨filling, answered, complete⟩ := judge_done_complete positive first halved done
    exact ⟨0, capacity, filling, rfl, rfl, answered, complete⟩
  -- The call that follows is the first one of the rest, so its number is shifted by one.
  | case2 attempt capacity positive lastLength called next again room rest ih =>
    have first := fills 0 capacity rfl
    have later : ∀ k c, rest.calls[k]? = some (.configuration c) →
        FillsWhatFits (present (attempt + 1 + k)) c (query (attempt + 1 + k) c) := by
      intro k c made
      have shifted : attempt + 1 + k = attempt + (k + 1) := by omega
      rw [shifted]
      exact fills (k + 1) c made
    obtain ⟨last, c, filling, length, made, answered, complete⟩ :=
      ih (judge_again_halved first again) later converged
    have shifted : attempt + 1 + last = attempt + (last + 1) := by omega
    rw [shifted] at answered complete
    exact ⟨last + 1, c, filling, congrArg (· + 1) length, made, answered, complete⟩
  | case3 => cases converged

/-- Whatever changes between the calls of a growing series, the buffer it ends with holds all the
entries that its last call found, and that call had room to spare. -/
theorem converged_complete (query : Nat → Nat → Except OsError (Filling α)) (blank : α) (initial : Nat)
    (present : Nat → Nat)
    (fills : ∀ k capacity, (run query blank initial).calls[k]? = some (.configuration capacity) →
      FillsWhatFits (present k) capacity (query k capacity))
    (buffer : Buffer α) (converged : (run query blank initial).outcome = .ok buffer) :
    ∃ last capacity filling,
      (run query blank initial).calls.length = last + 1 ∧
      (run query blank initial).calls[last]? = some (.configuration capacity) ∧
      query last capacity = .ok filling ∧
      buffer.toList = filling.written ∧
      buffer.toList.length = present last ∧
      present last < capacity := by
  have shiftless : ∀ k c, (run query blank initial).calls[k]? = some (.configuration c) →
      FillsWhatFits (present (0 + k)) c (query (0 + k) c) := by
    simpa only [Nat.zero_add] using fills
  obtain ⟨last, capacity, filling, length, made, answered, complete⟩ :=
    continueFrom_complete query blank present buffer 0 _ _ none (.none _) shiftless converged
  rw [Nat.zero_add] at answered complete
  exact ⟨last, capacity, filling, length, made, answered, complete.slots, complete.count,
    complete.spare⟩

/-- Three entries at the first call, two at each later one; a slot holds the number of its call. -/
def shrinking (attempt capacity : Nat) : Except OsError (Filling Nat) :=
  let count := min (if attempt = 0 then 3 else 2) capacity
  .ok ⟨count, List.replicate count attempt⟩

theorem shrinking_fills (attempt capacity : Nat) :
    FillsWhatFits (if attempt = 0 then 3 else 2) capacity (shrinking attempt capacity) := by
  intro filling answered
  cases answered
  exact ⟨List.length_replicate, rfl⟩

/-- The first call is cut off at two slots, and the second one finds two entries. -/
theorem converged_complete_shrinking :
    (run shrinking 7 2).outcome = .ok ⟨2, 7, [1, 1]⟩ ∧
    ∃ last capacity filling,
      (run shrinking 7 2).calls.length = last + 1 ∧
      (run shrinking 7 2).calls[last]? = some (.configuration capacity) ∧
      shrinking last capacity = .ok filling ∧
      Buffer.toList ⟨2, 7, [1, 1]⟩ = filling.written ∧
      (Buffer.toList ⟨2, 7, [1, 1]⟩).length = (if last = 0 then 3 else 2) ∧
      (if last = 0 then 3 else 2) < capacity := by
  have converged : (run shrinking 7 2).outcome = .ok ⟨2, 7, [1, 1]⟩ := by
    cbv
  exact ⟨converged, converged_complete shrinking 7 2 (fun k => if k = 0 then 3 else 2)
    (fun k capacity _ => shrinking_fills k capacity) _ converged⟩

end HostNet.Growth
