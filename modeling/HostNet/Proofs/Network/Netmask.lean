import HostNet.Network

/-!
Netmasks bit by bit. The search for the length of a netmask finds a length exactly when the bits are
that many ones and then zeros, so there is at most one length to find.
-/

namespace HostNet

namespace Octets

variable {b c : UInt8} {bytes others : List UInt8}

/-- The bits of an octet, the most significant one first. -/
def bitsOf (b : UInt8) : List Bool :=
  List.ofFn fun i : Fin 8 => b.toBitVec.getMsbD i

/-- The bits of octets in network order. -/
def bits (bytes : List UInt8) : List Bool :=
  bytes.flatMap bitsOf

theorem length_bitsOf (b : UInt8) : (bitsOf b).length = 8 := by
  rw [bitsOf, List.length_ofFn]

theorem bits_cons (b : UInt8) (bytes : List UInt8) : bits (b :: bytes) = bitsOf b ++ bits bytes :=
  List.flatMap_cons

theorem length_bits (bytes : List UInt8) : (bits bytes).length = 8 * bytes.length := by
  induction bytes with
  | nil => rfl
  | cons b rest ih => rw [bits_cons, List.length_append, length_bitsOf, ih, List.length_cons]; omega

theorem bitsOf_inj (same : bitsOf b = bitsOf c) : b = c := by
  apply UInt8.toBitVec_inj.mp
  apply BitVec.eq_of_getMsbD_eq
  intro i bound
  have position := congrArg (fun bits => bits[i]?) same
  simpa only [bitsOf, List.getElem?_ofFn, dif_pos bound, Option.some.injEq] using position

/-- Octets are determined by their bits. -/
theorem bits_inj (same : bits bytes = bits others) : bytes = others := by
  induction bytes generalizing others with
  | nil =>
    have none := congrArg List.length same
    rw [length_bits, length_bits, List.length_nil] at none
    exact (List.length_eq_zero_iff.mp (by omega)).symm
  | cons b rest ih =>
    cases others with
    | nil =>
      have none := congrArg List.length same
      simp only [length_bits, List.length_cons, List.length_nil] at none
      omega
    | cons c others =>
      rw [bits_cons, bits_cons] at same
      obtain ⟨first, behind⟩ := List.append_inj same (by rw [length_bitsOf, length_bitsOf])
      rw [bitsOf_inj first, ih behind]

end Octets

namespace Netmask

variable {mask : List UInt8} {ones : Nat}

/-- As many ones as said, then zeros up to the width. -/
def run (width ones : Nat) : List Bool :=
  List.replicate ones true ++ List.replicate (width - ones) false

theorem octet_full (many : 8 ≤ ones) : octet ones = octet 8 := by
  rw [octet, octet, Nat.sub_eq_zero_of_le many]

theorem bitsOf_octet (few : ones ≤ 8) : Octets.bitsOf (octet ones) = run 8 ones := by
  have each : ∀ ones ≤ 8, Octets.bitsOf (octet ones) = run 8 ones := by decide
  exact each ones few

/-- The first octet takes up to eight of the ones, and the octets behind it take the others. -/
theorem bits_octets {count : Nat} (within : ones ≤ 8 * count) :
    Octets.bits (octets count ones) = run (8 * count) ones := by
  induction count generalizing ones with
  | zero =>
    rw [Nat.le_zero.mp within]
    rfl
  | succ count ih =>
    have behind : Octets.bits (octets count (ones - 8)) = run (8 * count) (ones - 8) :=
      ih (by omega)
    rw [octets, Octets.bits_cons, behind]
    by_cases few : ones ≤ 8
    · have zeros : 8 * (count + 1) - ones = 8 - ones + 8 * count := by omega
      rw [bitsOf_octet few, run, run, run, Nat.sub_eq_zero_of_le few, zeros,
        ← List.replicate_append_replicate]
      simp
    · have more : ones = 8 + (ones - 8) := by omega
      have zeros : 8 * (count + 1) - ones = 8 * count - (ones - 8) := by omega
      have front : List.replicate ones true =
          List.replicate 8 true ++ List.replicate (ones - 8) true := by
        rw [List.replicate_append_replicate, ← more]
      rw [octet_full (by omega), bitsOf_octet (Nat.le_refl 8), run, run, run, zeros, front]
      simp

/-- The number of ones can be told from the run. -/
theorem run_inj {width other : Nat} (same : run width ones = run width other) : ones = other := by
  have counts := congrArg (List.count true) same
  simpa [run, List.count_append, List.count_replicate] using counts

theorem octets_eq_iff (within : ones ≤ 8 * mask.length) :
    octets mask.length ones = mask ↔ Octets.bits mask = run (8 * mask.length) ones := by
  constructor
  · intro same
    rw [← bits_octets within, same]
  · intro masked
    apply Octets.bits_inj
    rw [bits_octets within, masked]

/-- The length that is found is the one that the bits show. -/
theorem length?_eq_some_iff :
    length? mask = some ones ↔
      ones ≤ 8 * mask.length ∧ Octets.bits mask = run (8 * mask.length) ones := by
  constructor
  · intro found
    have present := List.mem_range.mp (List.mem_of_find?_eq_some found)
    have within : ones ≤ 8 * mask.length := by omega
    have same : octets mask.length ones = mask := by simpa using List.find?_some found
    exact ⟨within, (octets_eq_iff within).mp same⟩
  · rintro ⟨within, masked⟩
    have same := (octets_eq_iff within).mpr masked
    cases found : length? mask with
    | none =>
      have refused := List.find?_eq_none.mp found ones (List.mem_range.mpr (by omega))
      simp [same] at refused
    | some other =>
      have present := List.mem_range.mp (List.mem_of_find?_eq_some found)
      have others : octets mask.length other = mask := by simpa using List.find?_some found
      rw [(octets_eq_iff (by omega)).mp others] at masked
      rw [run_inj masked]

end Netmask

end HostNet
