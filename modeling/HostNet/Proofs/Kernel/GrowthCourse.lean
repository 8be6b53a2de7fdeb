import Mathlib.Algebra.Group.Nat.Defs
import HostNet.Kernel.Growth

/-!
The course of a growing series of calls. Answers are passed over as long as they settle nothing:
first those that only say that a buffer was too small, then successes that differ in length from
the one before. The answer after them ends the series, and decides how.
-/

namespace HostNet

namespace Buffer

theorem toList_of_size {α : Type} (blank : α) (written : List α) :
    toList ⟨written.length, blank, written⟩ = written := by
  simp [toList]

/-- A slot holds what was written into it, or is blank. -/
theorem toList_eq {α : Type} (b : Buffer α) :
    b.toList = (List.range b.size).map (b.written.getD · b.blank) := by
  apply List.ext_getElem
  · simp [toList]
    omega
  · intro k inside bound
    have slot : k < b.size := by simpa using bound
    simp only [toList, List.getElem_append, List.getElem_map, List.getElem_range,
      List.getD_eq_getElem?_getD]
    split
    · rename_i early
      rw [List.length_take, Nat.lt_min] at early
      rw [List.getElem_take, List.getElem?_eq_getElem early.2, Option.getD_some]
    · rename_i late
      rw [List.length_take, Nat.lt_min, not_and] at late
      rw [List.getElem_replicate, List.getElem?_eq_none (Nat.le_of_not_lt (late slot)),
        Option.getD_none]

end Buffer

namespace Growth

variable {α : Type} {query : Nat → Nat → Except OsError (Filling α)} {blank : α}
  {attempt capacity count : Nat} {lastLength next last : Option Nat}
  {answer : Except OsError (Filling α)} {answers more : List (Except OsError (Filling α))}

/-- The answers to so many calls from number `attempt` on, each with room for twice as many slots as
the one before. -/
def answersFrom (query : Nat → Nat → Except OsError (Filling α)) (attempt capacity count : Nat) :
    List (Except OsError (Filling α)) :=
  (List.range count).map fun k => query (attempt + k) (capacity * 2 ^ k)

/-- So many capacities, each twice the one before. -/
def doublings (capacity count : Nat) : List Nat :=
  (List.range count).map (capacity * 2 ^ ·)

def offersFrom (capacity count : Nat) : List Call :=
  (doublings capacity count).map .configuration

theorem answersFrom_zero :
    answersFrom query 0 capacity count =
      (List.range count).map fun k => query k (capacity * 2 ^ k) := by
  simp only [answersFrom, Nat.zero_add]

theorem offersFrom_eq :
    offersFrom capacity count =
      (List.range count).map fun k => .configuration (capacity * 2 ^ k) := by
  rw [offersFrom, doublings, List.map_map]
  rfl

theorem double_pow (capacity k : Nat) : capacity * 2 * 2 ^ k = capacity * 2 ^ (k + 1) := by
  rw [Nat.mul_assoc, ← Nat.pow_succ']

theorem answersFrom_succ :
    answersFrom query attempt capacity (count + 1) =
      query attempt capacity :: answersFrom query (attempt + 1) (capacity * 2) count := by
  simp only [answersFrom, List.range_succ_eq_map, List.map_cons, List.map_map, double_pow,
    Nat.add_zero, Nat.pow_zero, Nat.mul_one]
  simp [Function.comp_def, Nat.add_assoc, Nat.add_comm 1]

theorem answersFrom_concat :
    answersFrom query attempt capacity (count + 1) =
      answersFrom query attempt capacity count ++
        [query (attempt + count) (capacity * 2 ^ count)] := by
  rw [answersFrom, List.range_succ, List.map_append]
  rfl

theorem doublings_succ :
    doublings capacity (count + 1) = capacity :: doublings (capacity * 2) count := by
  simp only [doublings, List.range_succ_eq_map, List.map_cons, List.map_map, double_pow,
    Nat.pow_zero, Nat.mul_one]
  rfl

theorem doublings_concat :
    doublings capacity (count + 1) = doublings capacity count ++ [capacity * 2 ^ count] := by
  rw [doublings, List.range_succ, List.map_append]
  rfl

theorem length_doublings : (doublings capacity count).length = count := by
  rw [doublings, List.length_map, List.length_range]

/-! ### Answers that are passed over -/

/-- The answers settle nothing, and lead from one remembered length to another. -/
inductive Passes : Option Nat → List (Except OsError (Filling α)) → Option Nat → Prop
  | nil {lastLength : Option Nat} : Passes lastLength [] lastLength
  | tooSmall {answers : List (Except OsError (Filling α))} {next : Option Nat} :
    Passes none answers next → Passes none (.error (.errno .invalidArgument) :: answers) next
  | granted {answers : List (Except OsError (Filling α))} {lastLength next : Option Nat}
    {filling : Filling α} : lastLength ≠ some filling.reported →
    Passes (some filling.reported) answers next → Passes lastLength (.ok filling :: answers) next

theorem Passes.append (front : Passes lastLength answers next) (back : Passes next more last) :
    Passes lastLength (answers ++ more) last := by
  induction front with
  | nil => exact back
  | tooSmall _ ih => exact .tooSmall (ih back)
  | granted fresh _ ih => exact .granted fresh (ih back)

theorem passes_cons_iff :
    Passes lastLength (answer :: answers) last ↔
      ∃ next, Passes lastLength [answer] next ∧ Passes next answers last := by
  constructor
  · intro passes
    cases passes with
    | tooSmall rest => exact ⟨none, .tooSmall .nil, rest⟩
    | granted fresh rest => exact ⟨_, .granted fresh .nil, rest⟩
  · rintro ⟨next, front, back⟩
    exact front.append back

theorem judge_again_iff :
    judge blank capacity lastLength answer = .again next ↔ Passes lastLength [answer] next := by
  constructor
  · intro again
    cases answer with
    | ok filling =>
      simp only [judge] at again
      split at again
      · cases again
      · rename_i fresh
        cases again
        exact .granted fresh .nil
    | error e =>
      simp only [judge] at again
      split at again
      · rename_i small
        obtain ⟨rfl, rfl⟩ := small
        cases again
        exact .tooSmall .nil
      · cases again
  · intro passes
    cases passes with
    | tooSmall rest =>
      cases rest
      rw [judge, if_pos ⟨rfl, rfl⟩]
    | granted fresh rest =>
      cases rest
      rw [judge, if_neg fresh]

theorem judge_done_ok_iff {buffer : Buffer α} :
    judge blank capacity lastLength answer = .done (.ok buffer) ↔
      ∃ filling, answer = .ok filling ∧ lastLength = some filling.reported ∧
        buffer = ⟨min filling.reported capacity, blank, filling.written⟩ := by
  cases answer with
  | ok filling =>
    simp only [judge, Except.ok.injEq, exists_eq_left']
    split
    · rename_i repeated
      simp only [Verdict.done.injEq, Except.ok.injEq, repeated, true_and]
      exact eq_comm
    · rename_i fresh
      simp only [reduceCtorEq, fresh, false_and]
  | error e =>
    simp only [judge, reduceCtorEq, false_and, exists_false, iff_false]
    split <;> nofun

theorem judge_done_error_iff {e : OsError} :
    judge blank capacity lastLength answer = .done (.error e) ↔
      answer = .error e ∧ ¬ (lastLength = none ∧ e = .errno .invalidArgument) := by
  cases answer with
  | ok filling =>
    simp only [judge, reduceCtorEq, false_and, iff_false]
    split <;> nofun
  | error fault =>
    simp only [judge, Except.error.injEq]
    split
    · rename_i small
      simp only [reduceCtorEq, false_iff]
      rintro ⟨rfl, blamed⟩
      exact blamed small
    · rename_i blamed
      simp only [Verdict.done.injEq, Except.error.injEq]
      exact ⟨fun same => ⟨same, same ▸ blamed⟩, And.left⟩

/-! ### The steps of a series -/

theorem continueFrom_of_done (positive : 0 < capacity) {outcome : Except OsError (Buffer α)}
    (done : judge blank capacity lastLength (query attempt capacity) = .done outcome) :
    (continueFrom query blank attempt capacity positive lastLength).calls =
        [.configuration capacity] ∧
      (continueFrom query blank attempt capacity positive lastLength).outcome = outcome := by
  rw [continueFrom, done]
  exact ⟨rfl, rfl⟩

theorem continueFrom_of_full (blank : α) (positive : 0 < capacity)
    (passes : Passes lastLength [query attempt capacity] next) (full : ¬ capacity * 2 < limit) :
    (continueFrom query blank attempt capacity positive lastLength).calls =
        [.configuration capacity] ∧
      (continueFrom query blank attempt capacity positive lastLength).outcome =
        .error overflow := by
  rw [continueFrom, judge_again_iff.mpr passes]
  dsimp only
  rw [if_neg full]
  exact ⟨rfl, rfl⟩

theorem continueFrom_of_again (blank : α) (positive : 0 < capacity)
    (passes : Passes lastLength [query attempt capacity] next) (room : capacity * 2 < limit)
    (double : 0 < capacity * 2) :
    (continueFrom query blank attempt capacity positive lastLength).calls =
        .configuration capacity ::
          (continueFrom query blank (attempt + 1) (capacity * 2) double next).calls ∧
      (continueFrom query blank attempt capacity positive lastLength).outcome =
        (continueFrom query blank (attempt + 1) (capacity * 2) double next).outcome := by
  rw [continueFrom, judge_again_iff.mpr passes]
  dsimp only
  rw [if_pos room]
  exact ⟨rfl, rfl⟩

/-- A series whose first answers are passed over goes on as one that starts behind them. -/
theorem continueFrom_of_passes (blank : α) (positive : 0 < capacity)
    (passes : Passes lastLength (answersFrom query attempt capacity count) next)
    (room : capacity * 2 ^ count < limit) (later : 0 < capacity * 2 ^ count) :
    (continueFrom query blank attempt capacity positive lastLength).calls =
        offersFrom capacity count ++
          (continueFrom query blank (attempt + count) (capacity * 2 ^ count) later next).calls ∧
      (continueFrom query blank attempt capacity positive lastLength).outcome =
        (continueFrom query blank (attempt + count) (capacity * 2 ^ count) later next).outcome := by
  induction count generalizing attempt capacity lastLength with
  | zero =>
    cases passes
    simp [offersFrom, doublings]
  | succ count ih =>
    rw [answersFrom_succ] at passes
    obtain ⟨middle, first, rest⟩ := passes_cons_iff.mp passes
    -- The capacity only grows, so if the last one is below the limit the next one is.
    have double : 0 < capacity * 2 := by omega
    have below : capacity * 2 < limit := by
      refine Nat.lt_of_le_of_lt ?_ room
      rw [← double_pow]
      exact Nat.le_mul_of_pos_right _ (Nat.two_pow_pos count)
    have behind := ih double rest (by rwa [double_pow]) (by rwa [double_pow])
    obtain ⟨calls, outcome⟩ := continueFrom_of_again blank positive first below double
    rw [calls, outcome, behind.1, behind.2, offersFrom, offersFrom, doublings_succ]
    simp only [double_pow, Nat.add_assoc, Nat.add_comm 1, List.map_cons, List.cons_append, and_self]

/-- What ends a series at a call: its answer, or that the capacity cannot be doubled again. -/
def EndsAt (query : Nat → Nat → Except OsError (Filling α)) (blank : α) (attempt capacity : Nat)
    (lastLength : Option Nat) (outcome : Except OsError (Buffer α)) : Prop :=
  judge blank capacity lastLength (query attempt capacity) = .done outcome ∨
    ((∃ next, Passes lastLength [query attempt capacity] next) ∧ limit ≤ capacity * 2 ∧
      outcome = .error overflow)

/-- Sooner or later there is an answer that ends the series. -/
theorem exists_end (query : Nat → Nat → Except OsError (Filling α)) (blank : α) (attempt : Nat)
    (positive : 0 < capacity) (lastLength : Option Nat) (room : capacity < limit) :
    ∃ count next outcome, Passes lastLength (answersFrom query attempt capacity count) next ∧
      capacity * 2 ^ count < limit ∧
      EndsAt query blank (attempt + count) (capacity * 2 ^ count) next outcome := by
  fun_induction continueFrom query blank attempt capacity positive lastLength with
  | case1 attempt capacity positive lastLength called outcome done =>
    exact ⟨0, lastLength, outcome, .nil, by simpa using room, .inl (by simpa using done)⟩
  | case2 attempt capacity positive lastLength called next again below rest ih =>
    obtain ⟨count, last, outcome, passes, fits, ends⟩ := ih below
    have first := judge_again_iff.mp again
    rw [double_pow] at fits ends
    have shifted : attempt + 1 + count = attempt + (count + 1) := by omega
    rw [shifted] at ends
    refine ⟨count + 1, last, outcome, ?_, fits, ends⟩
    rw [answersFrom_succ]
    exact first.append passes
  | case3 attempt capacity positive lastLength called next again full =>
    refine ⟨0, lastLength, .error overflow, .nil, by simpa using room, .inr ?_⟩
    have first := judge_again_iff.mp again
    exact ⟨⟨next, by simpa using first⟩, by simpa using full, rfl⟩

theorem continueFrom_of_end (positive : 0 < capacity) {outcome : Except OsError (Buffer α)}
    (passes : Passes lastLength (answersFrom query attempt capacity count) next)
    (room : capacity * 2 ^ count < limit)
    (ends : EndsAt query blank (attempt + count) (capacity * 2 ^ count) next outcome) :
    (continueFrom query blank attempt capacity positive lastLength).calls =
        offersFrom capacity (count + 1) ∧
      (continueFrom query blank attempt capacity positive lastLength).outcome = outcome := by
  have later : 0 < capacity * 2 ^ count := Nat.mul_pos positive (Nat.two_pow_pos count)
  obtain ⟨calls, same⟩ := continueFrom_of_passes blank positive passes room later
  have offers : offersFrom capacity (count + 1) =
      offersFrom capacity count ++ [.configuration (capacity * 2 ^ count)] := by
    rw [offersFrom, doublings_concat, List.map_append]
    rfl
  rw [calls, same, offers]
  rcases ends with done | ⟨⟨last, again⟩, full, rfl⟩
  · obtain ⟨final, outcome⟩ := continueFrom_of_done later done
    exact ⟨by rw [final], outcome⟩
  · obtain ⟨final, outcome⟩ := continueFrom_of_full blank later again (Nat.not_lt.mpr full)
    exact ⟨by rw [final], outcome⟩

end Growth

end HostNet
