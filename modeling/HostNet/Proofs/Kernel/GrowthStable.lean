import Mathlib.Data.Nat.Find
import HostNet.Proofs.Kernel.GrowthDoubling
import HostNet.Proofs.Kernel.GrowthSteady

/-!
Growth over a table that never changes. The capacity offered first decides how many calls are made,
but not what comes of them: they end with the whole table, one call after the first capacity that is
large enough, or there is no room for that call.
-/

namespace HostNet.Growth

variable {α : Type} {table : List α} {blank : α} {least first capacity count : Nat}
  {next : Option Nat}

/-- Every call finds the same table, and is refused where the capacity is below the least one. -/
def stable (table : List α) (least _attempt capacity : Nat) : Except OsError (Filling α) :=
  if capacity < least then .error (.errno .invalidArgument) else .ok (fitting table capacity)

theorem exists_doubling (needed initial : Nat) :
    ∃ k, needed ≤ firstCapacity initial * 2 ^ k := by
  refine ⟨needed, Nat.le_trans (Nat.le_of_lt Nat.lt_two_pow_self) ?_⟩
  exact Nat.le_mul_of_pos_left _ (firstCapacity_pos initial)

/-- How often the first capacity is doubled until it reaches the needed one. -/
def doublingsTo (needed initial : Nat) : Nat :=
  Nat.find (exists_doubling needed initial)

/-- The smallest capacity on the way that reaches the needed one. -/
def ample (needed initial : Nat) : Nat :=
  firstCapacity initial * 2 ^ doublingsTo needed initial

theorem le_ample (needed initial : Nat) : needed ≤ ample needed initial :=
  Nat.find_spec (exists_doubling needed initial)

theorem short_of_lt_doublingsTo (needed : Nat) {initial k : Nat}
    (earlier : k < doublingsTo needed initial) :
    firstCapacity initial * 2 ^ k < needed :=
  Nat.lt_of_not_le (Nat.find_min (exists_doubling needed initial) earlier)

/-- A remembered length comes from a table cut off at a smaller capacity. -/
def Lags (least count : Nat) (next : Option Nat) (capacity : Nat) : Prop :=
  ∀ length, next = some length → least ≤ length ∧ length < count ∧ length < capacity

theorem passes_short (attempt : Nat) (positive : 0 < capacity)
    (lags : Lags least table.length next capacity) (short : capacity < max least table.length) :
    ∃ last, Passes next [stable table least attempt capacity] last ∧
      Lags least table.length last (capacity * 2) := by
  -- A refusal leaves nothing to remember; a table cut off fills the buffer, so its length is new.
  by_cases small : capacity < least
  · have unknown : next = none := by
      cases next with
      | none => rfl
      | some length =>
        have bounds := lags length rfl
        omega
    rw [stable, if_pos small, unknown]
    exact ⟨none, .tooSmall .nil, nofun⟩
  · have cut : (fitting table capacity).reported = capacity := Nat.min_eq_right (by omega)
    have fresh : next ≠ some (fitting table capacity).reported := by
      rw [cut]
      intro same
      have bounds := lags capacity same
      omega
    rw [stable, if_neg small]
    refine ⟨some (fitting table capacity).reported, .granted fresh .nil, ?_⟩
    rw [cut]
    intro length same
    cases same
    omega

theorem stable_of_enough (attempt : Nat) (enough : max least table.length ≤ capacity) :
    stable table least attempt capacity = .ok ⟨table.length, table⟩ := by
  have large : ¬ capacity < least := by omega
  have fits : table.length ≤ capacity := by omega
  rw [stable, if_neg large, fitting, Nat.min_eq_left fits, List.take_of_length_le fits]

/-- As long as the capacities do not reach what is needed, nothing is settled. -/
theorem passes_while_short (positive : 0 < first)
    (short : ∀ k < count, first * 2 ^ k < max least table.length) :
    ∃ next, Passes none (answersFrom (stable table least) 0 first count) next ∧
      Lags least table.length next (first * 2 ^ count) := by
  induction count with
  | zero => exact ⟨none, .nil, nofun⟩
  | succ count ih =>
    obtain ⟨next, passes, lags⟩ := ih fun k earlier => short k (Nat.lt_succ_of_lt earlier)
    have later : 0 < first * 2 ^ count := Nat.mul_pos positive (Nat.two_pow_pos count)
    obtain ⟨last, final, lags⟩ :=
      passes_short (0 + count) later lags (short count (Nat.lt_succ_self count))
    rw [Nat.mul_assoc, ← Nat.pow_succ] at lags
    rw [answersFrom_concat]
    exact ⟨last, passes.append final, lags⟩

section

variable (table : List α) (blank : α) (least : Nat)

/-- The first capacity that reaches what is needed is enough for the whole table. -/
theorem passes_ample (initial : Nat) :
    Passes none (answersFrom (stable table least) 0 (firstCapacity initial)
      (doublingsTo (max least table.length) initial + 1)) (some table.length) := by
  obtain ⟨next, passes, lags⟩ := passes_while_short (firstCapacity_pos initial)
    fun k earlier => short_of_lt_doublingsTo (max least table.length) earlier
  have fresh : next ≠ some table.length := fun same => by
    have bounds := lags _ same
    omega
  have whole := le_ample (max least table.length) initial
  rw [ample] at whole
  rw [answersFrom_concat, stable_of_enough _ whole]
  exact passes.append (.granted fresh .nil)

theorem unsettled_until_ample {initial : Nat}
    (early : count ≤ doublingsTo (max least table.length) initial + 1) :
    Unsettled (answersFrom (stable table least) 0 (firstCapacity initial) count) := by
  rcases Nat.lt_or_eq_of_le early with earlier | rfl
  · obtain ⟨next, passes, -⟩ := passes_while_short (firstCapacity_pos initial)
      fun k before => short_of_lt_doublingsTo (max least table.length)
        (Nat.lt_of_lt_of_le before (Nat.le_of_lt_succ earlier))
    exact unsettled_iff.mpr ⟨next, passes⟩
  · exact unsettled_iff.mpr ⟨_, passes_ample table least initial⟩

theorem run_of_room (initial : UInt64)
    (room : ample (max least table.length) initial.toNat * 2 < limit) :
    let series := run (stable table least) blank initial.toNat
    series.calls =
        offersFrom (firstCapacity initial.toNat)
          (doublingsTo (max least table.length) initial.toNat + 2) ∧
      series.outcome = .ok ⟨table.length, blank, table⟩ := by
  have whole := le_ample (max least table.length) initial.toNat
  have enough : max least table.length ≤ ample (max least table.length) initial.toNat * 2 :=
    Nat.le_trans whole (Nat.le_mul_of_pos_right _ Nat.two_pos)
  have fits : table.length ≤ ample (max least table.length) initial.toNat * 2 :=
    Nat.le_trans (Nat.le_max_right _ _) enough
  rw [ample, Nat.mul_assoc, ← Nat.pow_succ] at room fits enough
  refine (run_ends_iff _ blank initial _ _).mpr
    ⟨room, _, passes_ample table least initial.toNat, .inl (judge_done_ok_iff.mpr ?_)⟩
  exact ⟨_, stable_of_enough _ enough, rfl, by rw [Nat.min_eq_left fits]⟩

theorem run_of_no_room (initial : UInt64)
    (full : limit ≤ ample (max least table.length) initial.toNat * 2) :
    (run (stable table least) blank initial.toNat).outcome = .error overflow := by
  have positive := firstCapacity_pos initial.toNat
  rw [ample, Nat.mul_assoc, ← Nat.pow_succ, limit_le_iff positive] at full
  have begun : ¬ 64 - Nat.log2 (firstCapacity initial.toNat) ≤ 0 := by
    rw [← limit_le_iff positive, Nat.pow_zero, Nat.mul_one]
    exact Nat.not_le.mpr (firstCapacity_lt initial)
  -- The last call is the one before the first capacity that reaches the limit.
  obtain ⟨count, last⟩ : ∃ count, 64 - Nat.log2 (firstCapacity initial.toNat) = count + 1 :=
    Nat.exists_eq_succ_of_ne_zero (by omega)
  have room : firstCapacity initial.toNat * 2 ^ count < limit := by
    rw [← Nat.not_le, limit_le_iff positive]
    omega
  have beyond : limit ≤ firstCapacity initial.toNat * 2 ^ (count + 1) := by
    rw [limit_le_iff positive]
    omega
  have early : count + 1 ≤ doublingsTo (max least table.length) initial.toNat + 1 := last ▸ full
  exact ((run_error_iff (stable table least) blank initial count overflow).mpr
    ⟨room, .inr ⟨rfl, unsettled_until_ample table least early, beyond⟩⟩).2

end

/-- Over a stable table, the first capacity decides how many calls there are, and nothing else: if
the smallest of its doublings that is enough can be doubled once more, the whole table is found one
call later, and otherwise the capacity overflows. -/
theorem guess_immaterial (table : List α) (least : Nat) (blank : α) :
    let needed := max least table.length
    let series := fun initial : UInt64 => run (stable table least) blank initial.toNat
    (∀ initial,
      (ample needed initial.toNat * 2 < 2 ^ 64 →
        (series initial).outcome.map Buffer.toList = .ok table ∧
          (series initial).calls.length = doublingsTo needed initial.toNat + 2) ∧
      (2 ^ 64 ≤ ample needed initial.toNat * 2 → (series initial).outcome = .error overflow)) ∧
    ∀ initial other,
      ample needed initial.toNat * 2 < 2 ^ 64 → ample needed other.toNat * 2 < 2 ^ 64 →
        (series initial).outcome = (series other).outcome := by
  intro needed series
  refine ⟨fun initial => ⟨fun room => ?_, run_of_no_room table blank least initial⟩, ?_⟩
  · obtain ⟨calls, grown⟩ := run_of_room table blank least initial room
    constructor
    · rw [grown]
      exact congrArg Except.ok (Buffer.toList_of_size blank table)
    · rw [calls, offersFrom, List.length_map, length_doublings]
  · intro initial other room more
    have first := (run_of_room table blank least initial room).2
    have second := (run_of_room table blank least other more).2
    exact first.trans second.symm

/-- Three capacities are too small for the kernel, and the last one of all cannot be doubled. -/
theorem guess_immaterial_three :
    (doublingsTo 8 1 = 3 ∧
      (run (stable [1, 2, 3] 8) 0 1).outcome.map Buffer.toList = .ok [1, 2, 3] ∧
      (run (stable [1, 2, 3] 8) 0 1).calls.length = 5) ∧
    (run (stable [1, 2, 3] 8) 0 1).outcome = (run (stable [1, 2, 3] 8) 0 100).outcome ∧
    (run (stable [1, 2, 3] 8) 0 9223372036854775808).outcome = .error overflow := by
  obtain ⟨each, both⟩ := guess_immaterial [1, 2, 3] 8 0
  have early : doublingsTo 8 1 = 3 := (Nat.find_eq_iff _).mpr ⟨by decide, by decide⟩
  have late : doublingsTo 8 100 = 0 := (Nat.find_eq_iff _).mpr ⟨by decide, by decide⟩
  have last : doublingsTo 8 9223372036854775808 = 0 :=
    (Nat.find_eq_iff _).mpr ⟨by decide, by decide⟩
  have room : ample 8 1 * 2 < 2 ^ 64 := by
    rw [ample, early]
    decide
  have more : ample 8 100 * 2 < 2 ^ 64 := by
    rw [ample, late]
    decide
  have full : 2 ^ 64 ≤ ample 8 9223372036854775808 * 2 := by
    rw [ample, last]
    decide
  obtain ⟨whole, count⟩ := (each 1).1 room
  have five := count.trans (congrArg (· + 2) early)
  exact ⟨⟨early, whole, five⟩, both 1 100 room more, (each 9223372036854775808).2 full⟩

end HostNet.Growth
