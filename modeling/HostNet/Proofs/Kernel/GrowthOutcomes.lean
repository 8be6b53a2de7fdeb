import Mathlib.Data.List.Chain
import HostNet.Proofs.Kernel.GrowthCourse

/-!
How a growing series of calls ends, told by its answers alone. There are three ways: two successes
in a row report one length, a call fails that may not fail, or the capacity cannot be doubled again.
-/

namespace HostNet.Growth

variable {α : Type} {query : Nat → Nat → Except OsError (Filling α)} {blank : α}
  {lastLength next : Option Nat} {answer : Except OsError (Filling α)}
  {answers front back : List (Except OsError (Filling α))} {last : Filling α} {e : OsError}

/-- So many calls whose buffers were too small, and then these successes. -/
def answersOf (small : Nat) (fillings : List (Filling α)) : List (Except OsError (Filling α)) :=
  List.replicate small (.error (.errno .invalidArgument)) ++ fillings.map .ok

def lengths (fillings : List (Filling α)) : List Nat :=
  fillings.map (·.reported)

/-- No two neighbours report one length. -/
def Varied (fillings : List (Filling α)) : Prop :=
  (lengths fillings).IsChain (· ≠ ·)

/-- Nothing has ended the series so far. -/
def Unsettled (answers : List (Except OsError (Filling α))) : Prop :=
  ∃ small fillings, answers = answersOf small fillings ∧ Varied fillings

/-- The last two answers are the first neighbours that report one length. -/
def Settled (answers : List (Except OsError (Filling α))) (last : Filling α) : Prop :=
  ∃ small fillings before, answers = answersOf small (fillings ++ [before, last]) ∧
    Varied (fillings ++ [before]) ∧ before.reported = last.reported

/-- The last answer is the first failure, but for buffers that were too small before any success. -/
def Failed (answers : List (Except OsError (Filling α))) (e : OsError) : Prop :=
  ∃ before, answers = before ++ [.error e] ∧ Unsettled before ∧
    (e = .errno .invalidArgument → ∃ filling, .ok filling ∈ before)

theorem answersOf_concat {small : Nat} {fillings : List (Filling α)} {before : Filling α} :
    answersOf small (fillings ++ [before, last]) =
      answersOf small (fillings ++ [before]) ++ [.ok last] := by
  simp [answersOf]

/-! ### What is passed over -/

theorem passes_append_iff :
    Passes lastLength (front ++ back) next ↔
      ∃ middle, Passes lastLength front middle ∧ Passes middle back next := by
  constructor
  · intro passes
    induction front generalizing lastLength with
    | nil => exact ⟨lastLength, .nil, passes⟩
    | cons answer front ih =>
      obtain ⟨first, one, rest⟩ := passes_cons_iff.mp passes
      obtain ⟨middle, others, behind⟩ := ih rest
      exact ⟨middle, one.append others, behind⟩
  · rintro ⟨middle, one, other⟩
    exact one.append other

/-- After a success only successes are passed over, each of another length than the one before. -/
theorem passes_some_iff {length : Nat} :
    Passes (some length) answers next ↔
      ∃ fillings : List (Filling α), answers = fillings.map .ok ∧
        (length :: lengths fillings).IsChain (· ≠ ·) ∧
        next = (length :: lengths fillings).getLast? := by
  induction answers generalizing length with
  | nil =>
    constructor
    · intro passes
      cases passes
      exact ⟨[], rfl, List.isChain_singleton length, rfl⟩
    · rintro ⟨fillings, none, -, rfl⟩
      rw [List.map_eq_nil_iff.mp none.symm]
      exact .nil
  | cons answer answers ih =>
    constructor
    · intro passes
      cases passes with
      | @granted _ _ _ filling fresh rest =>
        obtain ⟨fillings, rfl, chain, rfl⟩ := ih.mp rest
        have apart : length ≠ filling.reported := fun same => fresh (congrArg some same)
        exact ⟨filling :: fillings, rfl, List.isChain_cons_cons.mpr ⟨apart, chain⟩,
          List.getLast?_cons_cons.symm⟩
    · rintro ⟨fillings, parts, chain, rfl⟩
      obtain ⟨filling, fillings, rfl, rfl, rfl⟩ := List.map_eq_cons_iff.mp parts.symm
      obtain ⟨apart, chain⟩ := List.isChain_cons_cons.mp chain
      rw [lengths, List.map_cons, List.getLast?_cons_cons]
      exact .granted (fun same => apart (Option.some.inj same)) (ih.mpr ⟨fillings, rfl, chain, rfl⟩)

theorem passes_none_iff :
    Passes none answers next ↔
      ∃ small fillings, answers = answersOf small fillings ∧ Varied fillings ∧
        next = (lengths fillings).getLast? := by
  constructor
  · -- Buffers that are too small come first; the first success leaves `none` for good.
    intro passes
    generalize unknown : (none : Option Nat) = lastLength at passes
    induction passes with
    | nil => exact ⟨0, [], rfl, List.isChain_nil, unknown.symm⟩
    | tooSmall _ ih =>
      obtain ⟨small, fillings, rfl, told⟩ := ih rfl
      exact ⟨small + 1, fillings, rfl, told⟩
    | @granted _ _ _ filling _ rest _ =>
      obtain ⟨fillings, rfl, told⟩ := passes_some_iff.mp rest
      exact ⟨0, filling :: fillings, rfl, told⟩
  · rintro ⟨small, fillings, rfl, chain, rfl⟩
    induction small with
    | zero =>
      cases fillings with
      | nil => exact .nil
      | cons filling fillings =>
        have rest := passes_some_iff.mpr ⟨fillings, rfl, chain, rfl⟩
        exact .granted (Option.some_ne_none _).symm rest
    | succ small ih => exact .tooSmall ih

theorem unsettled_iff : Unsettled answers ↔ ∃ next, Passes none answers next := by
  constructor
  · rintro ⟨small, fillings, parts, chain⟩
    exact ⟨_, passes_none_iff.mpr ⟨small, fillings, parts, chain, rfl⟩⟩
  · rintro ⟨next, passes⟩
    obtain ⟨small, fillings, parts, chain, -⟩ := passes_none_iff.mp passes
    exact ⟨small, fillings, parts, chain⟩

/-- A length is remembered just when there was a success. -/
theorem Passes.next_ne_none_iff (passes : Passes none answers next) :
    next ≠ none ↔ ∃ filling, .ok filling ∈ answers := by
  obtain ⟨small, fillings, rfl, -, rfl⟩ := passes_none_iff.mp passes
  cases fillings with
  | nil => simp [answersOf, lengths]
  | cons filling fillings => simp [answersOf, lengths]

theorem settled_concat_iff :
    Settled (front ++ [answer]) last ↔
      answer = .ok last ∧ Passes none front (some last.reported) := by
  constructor
  · rintro ⟨small, fillings, before, parts, chain, same⟩
    rw [answersOf_concat] at parts
    obtain ⟨rfl, final⟩ := List.append_inj' parts rfl
    refine ⟨List.head_eq_of_cons_eq final, passes_none_iff.mpr ⟨small, _, rfl, chain, ?_⟩⟩
    rw [← same]
    simp [lengths]
  · rintro ⟨rfl, passes⟩
    obtain ⟨small, fillings, rfl, chain, remembered⟩ := passes_none_iff.mp passes
    rcases List.eq_nil_or_concat' fillings with rfl | ⟨fillings, before, rfl⟩
    · cases remembered
    · refine ⟨small, fillings, before, answersOf_concat.symm, chain, ?_⟩
      simpa [lengths] using remembered.symm

theorem failed_concat_iff :
    Failed (front ++ [answer]) e ↔
      answer = .error e ∧
        ∃ next, Passes none front next ∧ ¬ (next = none ∧ e = .errno .invalidArgument) := by
  constructor
  · rintro ⟨before, parts, unsettled, excused⟩
    obtain ⟨rfl, final⟩ := List.append_inj' parts rfl
    obtain ⟨next, passes⟩ := unsettled_iff.mp unsettled
    refine ⟨List.head_eq_of_cons_eq final, next, passes, ?_⟩
    rintro ⟨unknown, small⟩
    exact passes.next_ne_none_iff.mpr (excused small) unknown
  · rintro ⟨rfl, next, passes, blamed⟩
    refine ⟨front, rfl, unsettled_iff.mpr ⟨next, passes⟩, fun small => ?_⟩
    exact passes.next_ne_none_iff.mp fun unknown => blamed ⟨unknown, small⟩

theorem unsettled_concat_iff :
    Unsettled (front ++ [answer]) ↔
      ∃ next, Passes none front next ∧ ∃ last, Passes next [answer] last := by
  rw [unsettled_iff]
  constructor
  · rintro ⟨last, passes⟩
    obtain ⟨next, front, final⟩ := passes_append_iff.mp passes
    exact ⟨next, front, last, final⟩
  · rintro ⟨next, front, last, final⟩
    exact ⟨last, front.append final⟩

/-! ### How a series ends -/

variable {attempt capacity : Nat}

theorem endsAt_ok_iff {buffer : Buffer α} :
    (∃ next, Passes none front next ∧ EndsAt query blank attempt capacity next (.ok buffer)) ↔
      ∃ last, Settled (front ++ [query attempt capacity]) last ∧
        buffer = ⟨min last.reported capacity, blank, last.written⟩ := by
  simp only [EndsAt, reduceCtorEq, and_false, or_false, judge_done_ok_iff, settled_concat_iff]
  constructor
  · rintro ⟨next, passes, last, answered, rfl, rfl⟩
    exact ⟨last, ⟨answered, passes⟩, rfl⟩
  · rintro ⟨last, ⟨answered, passes⟩, rfl⟩
    exact ⟨_, passes, last, answered, rfl, rfl⟩

theorem endsAt_error_iff :
    (∃ next, Passes none front next ∧ EndsAt query blank attempt capacity next (.error e)) ↔
      Failed (front ++ [query attempt capacity]) e ∨
        (e = overflow ∧ Unsettled (front ++ [query attempt capacity]) ∧ limit ≤ capacity * 2) := by
  simp only [EndsAt, Except.error.injEq, judge_done_error_iff, failed_concat_iff,
    unsettled_concat_iff]
  constructor
  · rintro ⟨next, passes, ⟨answered, blamed⟩ | ⟨again, full, rfl⟩⟩
    · exact .inl ⟨answered, next, passes, blamed⟩
    · exact .inr ⟨rfl, ⟨next, passes, again⟩, full⟩
  · rintro (⟨answered, next, passes, blamed⟩ | ⟨rfl, ⟨next, passes, again⟩, full⟩)
    · exact ⟨next, passes, .inl ⟨answered, blamed⟩⟩
    · exact ⟨next, passes, .inr ⟨again, full, rfl⟩⟩

theorem firstCapacity_pos (initial : Nat) : 0 < firstCapacity initial := by
  unfold firstCapacity
  omega

theorem firstCapacity_lt (initial : UInt64) : firstCapacity initial.toNat < limit := by
  have word : initial.toNat < limit := initial.toNat_lt
  have one : 1 < limit := by decide
  exact max_lt word one

/-- A series ends with a call just when all answers before it are passed over, its capacity is below
the limit, and it ends the series. -/
theorem run_ends_iff (query : Nat → Nat → Except OsError (Filling α)) (blank : α)
    (initial : UInt64) (count : Nat) (outcome : Except OsError (Buffer α)) :
    let first := firstCapacity initial.toNat
    let series := run query blank initial.toNat
    (series.calls = offersFrom first (count + 1) ∧ series.outcome = outcome) ↔
      first * 2 ^ count < limit ∧
        ∃ next, Passes none (answersFrom query 0 first count) next ∧
          EndsAt query blank (0 + count) (first * 2 ^ count) next outcome := by
  have positive := firstCapacity_pos initial.toNat
  constructor
  · rintro ⟨calls, rfl⟩
    -- The series has an end, and it is this one because it has as many calls.
    obtain ⟨other, next, outcome, passes, room, ends⟩ :=
      exists_end query blank 0 positive none (firstCapacity_lt initial)
    obtain ⟨offers, same⟩ := continueFrom_of_end positive passes room ends
    have equal := congrArg List.length (calls.symm.trans offers)
    rw [offersFrom, offersFrom, List.length_map, List.length_map, length_doublings,
      length_doublings] at equal
    obtain rfl : count = other := Nat.succ.inj equal
    exact ⟨room, next, passes, same ▸ ends⟩
  · rintro ⟨room, next, passes, ends⟩
    exact continueFrom_of_end positive passes room ends

theorem exists_calls_run (query : Nat → Nat → Except OsError (Filling α)) (blank : α)
    (initial : UInt64) :
    ∃ count, (run query blank initial.toNat).calls =
      offersFrom (firstCapacity initial.toNat) (count + 1) := by
  have positive := firstCapacity_pos initial.toNat
  obtain ⟨count, next, outcome, passes, room, ends⟩ :=
    exists_end query blank 0 positive none (firstCapacity_lt initial)
  exact ⟨count, (continueFrom_of_end positive passes room ends).1⟩

theorem map_eq_ok_iff {ε β γ : Type} {f : β → γ} {r : Except ε β} {c : γ} :
    r.map f = .ok c ↔ ∃ b, r = .ok b ∧ f b = c := by
  cases r with
  | ok b => simp [Except.map]
  | error e => simp [Except.map]

section

variable (query : Nat → Nat → Except OsError (Filling α)) (blank : α) (initial : UInt64)
  (count : Nat)

theorem run_ok_iff (slots : List α) :
    let first := firstCapacity initial.toNat
    let series := run query blank initial.toNat
    series.calls = offersFrom first (count + 1) ∧ series.outcome.map Buffer.toList = .ok slots ↔
      first * 2 ^ count < limit ∧
        ∃ last, Settled (answersFrom query 0 first (count + 1)) last ∧
          slots = (List.range (min last.reported (first * 2 ^ count))).map
            (last.written.getD · blank) := by
  intro first series
  rw [map_eq_ok_iff, answersFrom_concat]
  constructor
  · rintro ⟨calls, buffer, grown, rfl⟩
    obtain ⟨room, ended⟩ := (run_ends_iff query blank initial count _).mp ⟨calls, grown⟩
    obtain ⟨last, settled, rfl⟩ := endsAt_ok_iff.mp ended
    exact ⟨room, last, settled, Buffer.toList_eq _⟩
  · rintro ⟨room, last, settled, rfl⟩
    obtain ⟨calls, grown⟩ := (run_ends_iff query blank initial count _).mpr
      ⟨room, endsAt_ok_iff.mpr ⟨last, settled, rfl⟩⟩
    exact ⟨calls, _, grown, Buffer.toList_eq _⟩

theorem run_error_iff (e : OsError) :
    let first := firstCapacity initial.toNat
    let series := run query blank initial.toNat
    series.calls = offersFrom first (count + 1) ∧ series.outcome = .error e ↔
      first * 2 ^ count < limit ∧
        (Failed (answersFrom query 0 first (count + 1)) e ∨
          e = overflow ∧ Unsettled (answersFrom query 0 first (count + 1)) ∧
            limit ≤ first * 2 ^ (count + 1)) := by
  intro first series
  refine (run_ends_iff query blank initial count (.error e)).trans ?_
  rw [endsAt_error_iff, ← answersFrom_concat, Nat.mul_assoc, ← Nat.pow_succ]

end

/-- A growing series ends with a success just when two successes in a row report one length for the
first time, with a failure of a call just when that may not fail, and otherwise because the capacity
cannot be doubled again. Each slot it ends with holds what the last call wrote there, or is blank. -/
theorem series_end_exactly (query : Nat → Nat → Except OsError (Filling α)) (blank : α)
    (initial : UInt64) :
    let first := max initial.toNat 1
    let series := run query blank initial.toNat
    let offers := fun count => (List.range count).map fun k => Call.configuration (first * 2 ^ k)
    (∃ count, series.calls = offers (count + 1)) ∧
    ∀ count,
      let answers := (List.range (count + 1)).map fun k => query k (first * 2 ^ k)
      let capacity := first * 2 ^ count
      (∀ slots,
        series.calls = offers (count + 1) ∧ series.outcome.map Buffer.toList = .ok slots ↔
          capacity < 2 ^ 64 ∧ ∃ last, Settled answers last ∧
            slots = (List.range (min last.reported capacity)).map (last.written.getD · blank)) ∧
      ∀ e,
        series.calls = offers (count + 1) ∧ series.outcome = .error e ↔
          capacity < 2 ^ 64 ∧ (Failed answers e ∨
            e = .custom "interface buffer size overflow" ∧ Unsettled answers ∧
              2 ^ 64 ≤ first * 2 ^ (count + 1)) := by
  intro first series offers
  have offered : ∀ count, offersFrom (firstCapacity initial.toNat) count = offers count :=
    fun count => offersFrom_eq
  refine ⟨?_, fun count => ⟨fun slots => ?_, fun e => ?_⟩⟩
  · obtain ⟨count, calls⟩ := exists_calls_run query blank initial
    exact ⟨count, calls.trans (offered (count + 1))⟩
  · have ends := run_ok_iff query blank initial count slots
    simp only [offered, answersFrom_zero] at ends
    exact ends
  · have ends := run_error_iff query blank initial count e
    simp only [offered, answersFrom_zero] at ends
    exact ends

/-- The answers of a script, one for each call. -/
def scripted (script : List (Except OsError (Filling Nat))) (attempt _capacity : Nat) :
    Except OsError (Filling Nat) :=
  script[attempt]?.getD (.error (.errno ⟨5⟩))

/-- A length that the buffer has no room for, and then one that is reported twice. The last call
writes less than the calls before it. -/
def settling : List (Except OsError (Filling Nat)) :=
  [.error (.errno .invalidArgument), .ok ⟨5, [8, 8]⟩, .ok ⟨3, [9, 9, 9]⟩, .ok ⟨3, [6]⟩]

def refusing : List (Except OsError (Filling Nat)) :=
  [.ok ⟨1, [8]⟩, .error (.errno .invalidArgument)]

def wavering : List (Except OsError (Filling Nat)) :=
  [.ok ⟨9, []⟩, .ok ⟨8, []⟩, .ok ⟨9, []⟩]

theorem series_end_exactly_scripted :
    ((run (scripted settling) 7 0).calls =
        [.configuration 1, .configuration 2, .configuration 4, .configuration 8] ∧
      (run (scripted settling) 7 0).outcome.map Buffer.toList = .ok [6, 7, 7]) ∧
    ((run (scripted refusing) 7 3).calls = [.configuration 3, .configuration 6] ∧
      (run (scripted refusing) 7 3).outcome = .error (.errno .invalidArgument)) ∧
    (run (scripted wavering) 7 0x4000000000000000).calls =
        [.configuration 0x4000000000000000, .configuration 0x8000000000000000] ∧
      (run (scripted wavering) 7 0x4000000000000000).outcome =
        .error (.custom "interface buffer size overflow") := by
  refine ⟨?_, ?_, ?_⟩
  · have settled : Settled settling ⟨3, [6]⟩ :=
      ⟨1, [⟨5, [8, 8]⟩], ⟨3, [9, 9, 9]⟩, rfl, by simp [Varied, lengths], rfl⟩
    obtain ⟨ended, -⟩ := (series_end_exactly (scripted settling) 7 0).2 3
    exact (ended [6, 7, 7]).mpr ⟨by decide, ⟨3, [6]⟩, settled, rfl⟩
  · have failed : Failed refusing (.errno .invalidArgument) :=
      ⟨[.ok ⟨1, [8]⟩], rfl, ⟨0, [⟨1, [8]⟩], rfl, by simp [Varied, lengths]⟩,
        fun _ => ⟨⟨1, [8]⟩, List.mem_singleton_self _⟩⟩
    obtain ⟨-, ended⟩ := (series_end_exactly (scripted refusing) 7 3).2 1
    exact (ended (.errno .invalidArgument)).mpr ⟨by decide, .inl failed⟩
  · have unsettled : Unsettled (wavering.take 2) :=
      ⟨0, [⟨9, []⟩, ⟨8, []⟩], rfl, by simp [Varied, lengths]⟩
    obtain ⟨-, ended⟩ := (series_end_exactly (scripted wavering) 7 0x4000000000000000).2 1
    exact (ended _).mpr ⟨by decide, .inr ⟨rfl, unsettled, by decide⟩⟩

end HostNet.Growth
