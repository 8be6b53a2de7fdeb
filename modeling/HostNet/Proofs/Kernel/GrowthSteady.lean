import Mathlib.Algebra.Group.Nat.Defs
import HostNet.Proofs.Kernel.GrowthComplete

/-!
Growth over a table that stays as it is. The buffer then holds the whole table, if the capacities
for which there is room go one doubling past the table; otherwise growth overflows.
-/

namespace HostNet.Growth

variable {α : Type} {query : Nat → Nat → Except OsError (Filling α)} {table : List α}
  {blank : α} {room : Nat → Bool} {count capacity attempt : Nat} {positive : 0 < capacity}
  {lastLength : Option Nat}

/-- As much of a table as fits, with its length. -/
def fitting (table : List α) (capacity : Nat) : Filling α where
  reported := min table.length capacity
  written := table.take capacity

/-- Every call finds the same table; a capacity for which there is no room is refused. -/
structure Steady (query : Nat → Nat → Except OsError (Filling α)) (table : List α)
    (room : Nat → Bool) : Prop where
  answered : ∀ attempt capacity, room capacity = true →
    query attempt capacity = .ok (fitting table capacity)
  refused : ∀ attempt capacity, room capacity = false → query attempt capacity = .error overflow
  smaller : ∀ capacity more, capacity ≤ more → room more = true → room capacity = true
  within : ∀ capacity, room capacity = true → capacity < limit

/-- Some doubling of the capacity holds the count, and there is room for the next one, which shows
that nothing was cut off. -/
def Settles (room : Nat → Bool) (count capacity : Nat) : Prop :=
  ∃ doublings, count ≤ capacity * 2 ^ doublings ∧ room (capacity * 2 ^ (doublings + 1)) = true

theorem settles_of_le (enough : count ≤ capacity) (spare : room (capacity * 2) = true) :
    Settles room count capacity :=
  ⟨0, by simpa using enough, by simpa using spare⟩

theorem settles_of_double (settles : Settles room count (capacity * 2)) :
    Settles room count capacity := by
  obtain ⟨doublings, enough, spare⟩ := settles
  rw [Nat.mul_assoc, ← Nat.pow_succ'] at enough spare
  exact ⟨doublings + 1, enough, spare⟩

theorem Settles.double (settles : Settles room count capacity) (short : capacity < count) :
    Settles room count (capacity * 2) := by
  obtain ⟨doublings, enough, spare⟩ := settles
  cases doublings with
  | zero => omega
  | succ doublings =>
    rw [Nat.pow_succ', ← Nat.mul_assoc] at enough spare
    exact ⟨doublings, enough, spare⟩

theorem Settles.room_double (settles : Settles room count capacity)
    (steady : Steady query table room) : room (capacity * 2) = true := by
  obtain ⟨doublings, -, spare⟩ := settles
  refine steady.smaller _ _ ?_ spare
  rw [Nat.pow_succ', ← Nat.mul_assoc]
  exact Nat.le_mul_of_pos_right _ (Nat.two_pow_pos doublings)

theorem judge_fitting (blank : α) (table : List α) (capacity : Nat) (lastLength : Option Nat) :
    judge blank capacity lastLength (.ok (fitting table capacity)) =
      if lastLength = some (min table.length capacity) then
        .done (.ok ⟨min table.length capacity, blank, table.take capacity⟩)
      else .again (some (min table.length capacity)) := by
  simp [judge, fitting]

theorem judge_overflow (blank : α) (capacity : Nat) (lastLength : Option Nat) :
    judge blank capacity lastLength (.error overflow) = .done (.error overflow) := by
  simp [judge, overflow]

theorem outcome_of_remembered (steady : Steady query table room)
    (enough : table.length ≤ capacity) (spare : room capacity = true) :
    (continueFrom query blank attempt capacity positive (some table.length)).outcome =
      .ok ⟨table.length, blank, table⟩ := by
  rw [continueFrom, steady.answered attempt capacity spare, judge_fitting,
    Nat.min_eq_left enough, List.take_of_length_le enough, if_pos rfl]

theorem fills_fitting (table : List α) (capacity : Nat) :
    FillsWhatFits table.length capacity (.ok (fitting table capacity)) := by
  intro filling answered
  cases answered
  exact ⟨by rw [fitting, List.length_take, Nat.min_comm], rfl⟩

theorem outcome_of_settles (steady : Steady query table room) (halved : Halved lastLength capacity)
    (settles : Settles room table.length capacity) :
    (continueFrom query blank attempt capacity positive lastLength).outcome =
      .ok ⟨table.length, blank, table⟩ := by
  fun_induction continueFrom query blank attempt capacity positive lastLength with
  | case1 attempt capacity positive lastLength called outcome done =>
    have spare := steady.smaller capacity _ (by omega) (settles.room_double steady)
    rw [steady.answered attempt capacity spare, judge_fitting] at done
    split at done
    -- The remembered length is at most half the capacity, so the table ends within it.
    · rename_i repeated
      have half := halved _ repeated
      have enough : table.length ≤ capacity := by omega
      rw [Nat.min_eq_left enough, List.take_of_length_le enough] at done
      cases done
      rfl
    · cases done
  | case2 attempt capacity positive lastLength called next again below rest ih =>
    have double := settles.room_double steady
    have spare := steady.smaller capacity _ (by omega) double
    rw [steady.answered attempt capacity spare] at again
    have halvedNext := judge_again_halved (fills_fitting table capacity) again
    rw [judge_fitting] at again
    split at again
    · cases again
    · cases again
      -- A call that has found the whole table is followed by one that finds the same length; the
      -- next capacity need not settle any more.
      by_cases enough : table.length ≤ capacity
      · have whole : min table.length capacity = table.length := Nat.min_eq_left enough
        simp only [rest, whole]
        exact outcome_of_remembered steady (by omega) double
      · exact ih halvedNext (settles.double (by omega))
  | case3 attempt capacity positive lastLength called next again full =>
    exact absurd (steady.within _ (settles.room_double steady)) full

theorem outcome_of_not_settles (steady : Steady query table room)
    (never : ¬ Settles room table.length capacity)
    (fresh : room capacity = true → lastLength ≠ some (min table.length capacity)) :
    (continueFrom query blank attempt capacity positive lastLength).outcome = .error overflow := by
  fun_induction continueFrom query blank attempt capacity positive lastLength with
  | case1 attempt capacity positive lastLength called outcome done =>
    cases spare : room capacity with
    | true =>
      rw [steady.answered attempt capacity spare, judge_fitting, if_neg (fresh spare)] at done
      cases done
    | false =>
      rw [steady.refused attempt capacity spare, judge_overflow] at done
      cases done
      rfl
  | case2 attempt capacity positive lastLength called next again below rest ih =>
    cases spare : room capacity with
    | true =>
      rw [steady.answered attempt capacity spare, judge_fitting, if_neg (fresh spare)] at again
      cases again
      refine ih (fun settles => never (settles_of_double settles)) ?_
      -- Only a table that fits twice is reported with one length.
      intro double repeated
      have short : capacity < table.length :=
        Nat.lt_of_not_le fun enough => never (settles_of_le enough double)
      have lengths := Option.some.inj repeated
      omega
    | false =>
      rw [steady.refused attempt capacity spare, judge_overflow] at again
      cases again
  | case3 => rfl

/-- What growth over a steady table comes to: the whole table, unless room runs out. -/
theorem run_of_settles (steady : Steady query table room) {initial : Nat}
    (settles : Settles room table.length (firstCapacity initial)) :
    (run query blank initial).outcome = .ok ⟨table.length, blank, table⟩ :=
  outcome_of_settles steady (.none _) settles

theorem run_of_not_settles (steady : Steady query table room) {initial : Nat}
    (never : ¬ Settles room table.length (firstCapacity initial)) :
    (run query blank initial).outcome = .error overflow := by
  refine outcome_of_not_settles steady never ?_
  intro _ remembered
  cases remembered

end HostNet.Growth
