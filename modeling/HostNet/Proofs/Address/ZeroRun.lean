import HostNet.Address.ColonGroups

/-!
Sixteen octets as eight groups: the groups determine the octets, and what `longestZeroRun` finds is
a run of zero groups with the other groups before and after it.
-/

namespace HostNet.ColonGroups

/-- The octets of a group. -/
def pair (g : Nat) : List UInt8 :=
  [UInt8.ofNat (g / 256), UInt8.ofNat (g % 256)]

theorem pair_of_octets (high low : UInt8) : pair (high.toNat * 256 + low.toNat) = [high, low] := by
  have small := low.toNat_lt
  have quotient : (high.toNat * 256 + low.toNat) / 256 = high.toNat := by omega
  have remainder : (high.toNat * 256 + low.toNat) % 256 = low.toNat := by omega
  rw [pair, quotient, remainder, UInt8.ofNat_toNat, UInt8.ofNat_toNat]

theorem pair_zero (n : Nat) : (List.replicate n 0).flatMap pair = List.replicate (2 * n) 0 := by
  induction n with
  | zero => rfl
  | succ n ih =>
    rw [List.replicate_succ, List.flatMap_cons, ih, Nat.mul_succ, List.replicate_succ,
      List.replicate_succ]
    rfl

theorem length_flatMap_pair (gs : List Nat) : (gs.flatMap pair).length = 2 * gs.length := by
  induction gs with
  | nil => rfl
  | cons g gs ih =>
    rw [List.flatMap_cons, List.length_append, ih, List.length_cons]
    simp only [pair, List.length_cons, List.length_nil]
    omega

theorem flatMap_pair_groups (octets : List UInt8) (even : octets.length % 2 = 0) :
    (groups octets).flatMap pair = octets := by
  fun_induction groups octets with
  | case1 high low rest ih =>
    rw [List.length_cons, List.length_cons] at even
    rw [List.flatMap_cons, pair_of_octets, ih (by omega)]
    rfl
  | case2 octets short =>
    match octets, short with
    | [], _ => rfl
    | [octet], _ => cases even
    | high :: low :: rest, short => exact (short high low rest rfl).elim

theorem length_groups (octets : List UInt8) : (groups octets).length = octets.length / 2 := by
  fun_induction groups octets with
  | case1 high low rest ih =>
    simp only [List.length_cons, ih]
    omega
  | case2 octets short =>
    match octets, short with
    | [], _ => rfl
    | [octet], _ => simp
    | high :: low :: rest, short => exact (short high low rest rfl).elim

theorem groups_lt (octets : List UInt8) : ∀ g ∈ groups octets, g < 65536 := by
  fun_induction groups octets with
  | case1 high low rest ih =>
    intro g member
    rcases List.mem_cons.mp member with rfl | member
    · have left := high.toNat_lt
      have right := low.toNat_lt
      omega
    · exact ih g member
  | case2 => simp

theorem groups_drop (octets : List UInt8) (n : Nat) :
    groups (octets.drop (2 * n)) = (groups octets).drop n := by
  induction n generalizing octets with
  | zero => rfl
  | succ n ih =>
    match octets with
    | [] => simp [groups]
    | [octet] => simp [groups, Nat.mul_succ]
    | high :: low :: rest => exact ih rest

/-- The groups from `start` on are `length` zeros, after which the others go on. -/
structure ZeroRun (gs : List Nat) (start length : Nat) : Prop where
  within : start + length ≤ gs.length
  parts : gs.take start ++ List.replicate length 0 ++ gs.drop (start + length) = gs

theorem zeros_in_front (gs : List Nat) : ZeroRun gs 0 (gs.takeWhile (· = 0)).length := by
  have leading : gs.takeWhile (· = 0) <+: gs := List.takeWhile_prefix _
  have zeros : ∀ g ∈ gs.takeWhile (· = 0), g = 0 := by
    intro g member
    have every := List.all_eq_true.mp (List.all_takeWhile (p := (· = 0)) (l := gs)) g member
    exact of_decide_eq_true every
  have front : List.replicate (gs.takeWhile (· = 0)).length 0 = gs.takeWhile (· = 0) :=
    (List.eq_replicate_iff.mpr ⟨rfl, zeros⟩).symm
  constructor
  · rw [Nat.zero_add]
    exact leading.length_le
  · rw [List.take_zero, List.nil_append, Nat.zero_add, front]
    exact List.prefix_iff_eq_append.mp leading

theorem ZeroRun.cons {gs : List Nat} {start length : Nat} (run : ZeroRun gs start length)
    (g : Nat) : ZeroRun (g :: gs) (start + 1) length := by
  constructor
  · have within := run.within
    rw [List.length_cons]
    omega
  · have shifted : start + 1 + length = start + length + 1 := by omega
    rw [shifted, List.take_succ_cons, List.drop_succ_cons, List.cons_append, List.cons_append,
      run.parts]

theorem longestZeroRun_run {gs : List Nat} {start length : Nat}
    (found : longestZeroRun gs = (start, length)) : ZeroRun gs start length := by
  induction gs generalizing start length with
  | nil =>
    cases found
    exact ⟨Nat.le_refl _, rfl⟩
  | cons g gs ih =>
    simp only [longestZeroRun] at found
    split at found
    · cases found
      exact zeros_in_front (g :: gs)
    · cases found
      exact (ih rfl).cons g

end HostNet.ColonGroups
