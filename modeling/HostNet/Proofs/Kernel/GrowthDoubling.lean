import HostNet.Proofs.Kernel.GrowthOutcomes

/-!
The buffers of a growing series of calls. Each has twice the slots of the one before, so a series is
over after as many calls as there are doublings below the limit; and whoever fills the buffers is
handed nothing but blanks, whatever an earlier call has written.
-/

namespace HostNet.Growth

variable {α σ : Type}

/-! ### How often a capacity can be doubled -/

theorem limit_le_iff {first count : Nat} (positive : 0 < first) :
    limit ≤ first * 2 ^ count ↔ 64 - Nat.log2 first ≤ count := by
  have nonzero : first ≠ 0 := by omega
  have low : 2 ^ Nat.log2 first ≤ first := Nat.log2_self_le nonzero
  have high : first < 2 ^ (Nat.log2 first + 1) := Nat.lt_log2_self
  have size : limit = 2 ^ 64 := rfl
  constructor
  · intro beyond
    have power : 2 ^ 64 < 2 ^ (Nat.log2 first + 1 + count) := by
      rw [Nat.pow_add, ← size]
      exact Nat.lt_of_le_of_lt beyond (Nat.mul_lt_mul_of_pos_right high (Nat.two_pow_pos count))
    have exponents := (Nat.pow_lt_pow_iff_right (by decide)).mp power
    omega
  · intro many
    have power : 2 ^ 64 ≤ 2 ^ (Nat.log2 first + count) :=
      Nat.pow_le_pow_right (by decide) (by omega)
    rw [size]
    rw [Nat.pow_add] at power
    exact Nat.le_trans power (Nat.mul_le_mul_right _ low)

/-! ### Whoever fills the buffers -/

/-- One who fills buffers and remembers. From its memory and the slots it is handed come the memory
it has then, the slots as it leaves them, and the length it reports or why it fails. -/
abbrev Filler (σ α : Type) : Type :=
  σ → (capacity : Nat) → Vector α capacity → σ × Vector α capacity × Except OsError Nat

namespace Filler

variable (f : Filler σ α) (blank : α)

def fresh (capacity : Nat) : Vector α capacity :=
  Vector.replicate capacity blank

/-- The memory before the call number `attempt`. -/
def memoryAt (memory : σ) (first : Nat) : Nat → σ
  | 0 => memory
  | attempt + 1 =>
    (f (memoryAt memory first attempt) (first * 2 ^ attempt) (fresh blank (first * 2 ^ attempt))).1

/-- What it does with a fresh buffer. -/
def fill (memory : σ) (capacity : Nat) : Except OsError (Filling α) :=
  let (_, left, reported) := f memory capacity (fresh blank capacity)
  reported.map fun length => ⟨length, left.toList⟩

/-- Its answers in a series that offers `first` slots first. -/
def answers (memory : σ) (first attempt capacity : Nat) : Except OsError (Filling α) :=
  fill f blank (memoryAt f blank memory first attempt) capacity

/-- Growth with the buffers themselves. The memory goes from call to call, the buffers do not. What
comes of it are the buffers as they were handed over, and the slots kept of the last one. -/
def grow (memory : σ) (capacity : Nat) (positive : 0 < capacity) (lastLength : Option Nat) :
    List (List α) × Except OsError (List α) :=
  let given := fresh blank capacity
  let (memory, left, reported) := f memory capacity given
  match judge blank capacity lastLength (reported.map fun length => ⟨length, left.toList⟩) with
  | .done outcome => ([given.toList], outcome.map Buffer.toList)
  | .again lastLength =>
    if capacity * 2 < limit then
      let (others, slots) := grow memory (capacity * 2) (by omega) lastLength
      (given.toList :: others, slots)
    else ([given.toList], .error overflow)
termination_by limit - capacity

variable {f blank} {memory : σ} {first attempt capacity : Nat} {positive : 0 < capacity}
  {lastLength next : Option Nat}

theorem toList_fresh (blank : α) (capacity : Nat) :
    (fresh blank capacity).toList = List.replicate capacity blank :=
  Vector.toList_replicate

theorem grow_of_done {outcome : Except OsError (Buffer α)}
    (done : judge blank capacity lastLength (fill f blank memory capacity) = .done outcome) :
    grow f blank memory capacity positive lastLength =
      ([(fresh blank capacity).toList], outcome.map Buffer.toList) := by
  unfold fill at done
  unfold grow
  simp only [done]

theorem grow_of_again
    (again : judge blank capacity lastLength (fill f blank memory capacity) = .again next)
    (room : capacity * 2 < limit) (double : 0 < capacity * 2) :
    let memory' := (f memory capacity (fresh blank capacity)).1
    grow f blank memory capacity positive lastLength =
      ((fresh blank capacity).toList :: (grow f blank memory' (capacity * 2) double next).1,
        (grow f blank memory' (capacity * 2) double next).2) := by
  unfold fill at again
  rw [grow]
  simp only [again, if_pos room]

theorem grow_of_full
    (again : judge blank capacity lastLength (fill f blank memory capacity) = .again next)
    (full : ¬ capacity * 2 < limit) :
    grow f blank memory capacity positive lastLength =
      ([(fresh blank capacity).toList], .error overflow) := by
  unfold fill at again
  unfold grow
  simp only [again, if_neg full]

/-- Growth with the buffers themselves is growth over the filler's answers, and every buffer that is
handed over holds blanks only. -/
theorem grow_eq (attempt : Nat) (positive : 0 < capacity) (here : capacity = first * 2 ^ attempt) :
    let series :=
      continueFrom (answers f blank memory first) blank attempt capacity positive lastLength
    grow f blank (memoryAt f blank memory first attempt) capacity positive lastLength =
      ((doublings capacity series.calls.length).map (List.replicate · blank),
        series.outcome.map Buffer.toList) := by
  fun_induction continueFrom (answers f blank memory first) blank attempt capacity positive
    lastLength with
  | case1 attempt capacity positive lastLength called outcome done =>
    rw [grow_of_done done, toList_fresh]
    change _ = ((doublings capacity 1).map _, _)
    rw [doublings_succ]
    rfl
  | case2 attempt capacity positive lastLength called next again room rest ih =>
    have double : 0 < capacity * 2 := by omega
    have there : capacity * 2 = first * 2 ^ (attempt + 1) := by
      rw [here, Nat.pow_succ, Nat.mul_assoc]
    have memory' : memoryAt f blank memory first (attempt + 1) =
        (f (memoryAt f blank memory first attempt) capacity (fresh blank capacity)).1 := by
      rw [here]
      rfl
    rw [grow_of_again again room double, toList_fresh, ← memory', ih there]
    change _ = ((doublings capacity (rest.calls.length + 1)).map _, _)
    rw [doublings_succ]
    rfl
  | case3 attempt capacity positive lastLength called next again full =>
    rw [grow_of_full again full, toList_fresh]
    change _ = ((doublings capacity 1).map _, _)
    rw [doublings_succ]
    rfl

end Filler

/-! ### A whole series -/

/-- Each call of a series is offered twice as many slots as the one before, all of them blank, so
there are no more calls than a capacity can be doubled. That it cannot be doubled again is the
outcome just when nothing has ended the series until then, unless a call fails with that error
itself. -/
theorem buffers_double (blank : α) (initial : UInt64) :
    let first := max initial.toNat 1
    (∀ query : Nat → Nat → Except OsError (Filling α),
      let series := run query blank initial.toNat
      ∃ count, series.calls = (List.range count).map (fun k => .configuration (first * 2 ^ k)) ∧
        0 < count ∧ count ≤ 64 - Nat.log2 first ∧
        (∀ k < count, first * 2 ^ k ≤ 2 ^ 64 - 1) ∧
        let answers := (List.range count).map fun k => query k (first * 2 ^ k)
        (series.outcome = .error (.custom "interface buffer size overflow") ↔
          (Unsettled answers ∧ 2 ^ 64 ≤ first * 2 ^ count) ∨
            Failed answers (.custom "interface buffer size overflow"))) ∧
    ∀ (σ : Type) (f : Filler σ α) (memory : σ),
      let series := run (f.answers blank memory first) blank initial.toNat
      f.grow blank memory first (Nat.le_max_right _ 1) none =
        ((List.range series.calls.length).map (fun k => List.replicate (first * 2 ^ k) blank),
          series.outcome.map Buffer.toList) := by
  intro first
  have positive : 0 < first := firstCapacity_pos initial.toNat
  constructor
  · intro query series
    obtain ⟨count, calls⟩ := exists_calls_run query blank initial
    obtain ⟨room, -⟩ := (run_ends_iff query blank initial count series.outcome).mp ⟨calls, rfl⟩
    have few : count < 64 - Nat.log2 first :=
      Nat.lt_of_not_le fun many => Nat.not_le.mpr room ((limit_le_iff positive).mpr many)
    refine ⟨count + 1, calls.trans offersFrom_eq, Nat.succ_pos count, few, ?_, ?_⟩
    · intro k earlier
      have power : 2 ^ k ≤ 2 ^ count := Nat.pow_le_pow_right (by decide) (Nat.le_of_lt_succ earlier)
      have below := Nat.lt_of_le_of_lt (Nat.mul_le_mul_left first power) room
      exact Nat.le_sub_one_of_lt below
    · intro answers
      have ends := run_error_iff query blank initial count overflow
      have told : answersFrom query 0 first (count + 1) = answers := answersFrom_zero
      rw [← told]
      constructor
      · intro overflowed
        obtain ⟨-, failed | ⟨-, unsettled, full⟩⟩ := ends.mp ⟨calls, overflowed⟩
        · exact .inr failed
        · exact .inl ⟨unsettled, full⟩
      · rintro (⟨unsettled, full⟩ | failed)
        · exact (ends.mpr ⟨room, .inr ⟨rfl, unsettled, full⟩⟩).2
        · exact (ends.mpr ⟨room, .inl failed⟩).2
  · intro σ f memory series
    have here : first = first * 2 ^ 0 := by omega
    refine (Filler.grow_eq 0 positive here).trans ?_
    rw [doublings, List.map_map]
    rfl

/-- Writes the number of its calls into every slot, and reports two slots, if there are as many. -/
def counting : Filler Nat Nat := fun calls capacity _ =>
  (calls + 1, Vector.replicate capacity (calls + 1), .ok (min capacity 2))

/-- Reports another length at each call. -/
def rising (attempt _capacity : Nat) : Except OsError (Filling Nat) :=
  .ok ⟨attempt, []⟩

/-- The third call is handed blanks, whatever the first two have written. A quarter of the limit can
be doubled once. -/
theorem buffers_double_counting :
    Filler.grow counting 7 0 1 Nat.one_pos none = ([[7], [7, 7], [7, 7, 7, 7]], .ok [3, 3]) ∧
    (run rising 7 0x4000000000000000).calls =
      [.configuration 0x4000000000000000, .configuration 0x8000000000000000] ∧
    (run rising 7 0x4000000000000000).outcome =
      .error (.custom "interface buffer size overflow") := by
  constructor
  · have handed := (buffers_double 7 0).2 Nat counting 0
    exact handed.trans (by cbv)
  · obtain ⟨count, calls, -, -, -, ended⟩ := (buffers_double 7 0x4000000000000000).1 rising
    have two : (run rising 7 (0x4000000000000000 : UInt64).toNat).calls.length = 2 := by cbv
    rw [calls, List.length_map, List.length_range] at two
    subst two
    have unsettled : Unsettled [rising 0 0x4000000000000000, rising 1 0x8000000000000000] :=
      ⟨0, [⟨0, []⟩, ⟨1, []⟩], rfl, by simp [Varied, lengths]⟩
    exact ⟨calls, ended.mpr (.inl ⟨unsettled, by decide⟩)⟩

end HostNet.Growth
