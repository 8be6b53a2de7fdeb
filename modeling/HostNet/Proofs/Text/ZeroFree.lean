import Mathlib.Data.List.TakeWhile
import HostNet.Kernel.Basic
import HostNet.Proofs.Text.Utf8

/-!
Repair makes no zeros: the character that octets are read as has a number of its own, which is zero
for a zero octet alone. So a name's text can always be handed back to the kernel.
-/

namespace HostNet

namespace Utf8

variable {leading next : UInt8} {rest octets : List UInt8} {width : Nat} {c : Char}

theorem width?_eq_some (known : width? leading = some width) :
    (width = 1 ∧ leading.toNat ≤ 0x7f) ∨
      (width = 2 ∧ 0xc2 ≤ leading.toNat ∧ leading.toNat ≤ 0xdf) ∨
      (width = 3 ∧ 0xe0 ≤ leading.toNat ∧ leading.toNat ≤ 0xef) ∨
      (width = 4 ∧ 0xf0 ≤ leading.toNat ∧ leading.toNat ≤ 0xf4) := by
  rw [← UInt8.ofNat_toNat (x := leading), width?_ofNat leading.toNat_lt] at known
  split_ifs at known <;> cases known <;> omega

/-- The limits that a leading octet sets on the second one. -/
theorem bounds_of_mayFollow (follows : mayFollow leading next = true) :
    0x80 ≤ next.toNat ∧ next.toNat ≤ 0xbf ∧
      (leading.toNat = 0xe0 → 0xa0 ≤ next.toNat) ∧ (leading.toNat = 0xed → next.toNat ≤ 0x9f) ∧
      (leading.toNat = 0xf0 → 0x90 ≤ next.toNat) ∧ (leading.toNat = 0xf4 → next.toNat ≤ 0x8f) := by
  simp only [mayFollow, isContinuation, UInt8.le_iff_toNat_le, ← UInt8.toNat_inj,
    UInt8.reduceToNat] at follows
  split_ifs at follows <;> simp at follows <;> omega

/-- Where octets belong to a leading one, the first of them may follow it. -/
theorem take_belonging (several : belonging leading rest ≠ 0) :
    ∃ next others, rest.take (belonging leading rest) = next :: others ∧
      others.length + 1 = belonging leading rest ∧ mayFollow leading next = true := by
  generalize counted : belonging leading rest = count at several ⊢
  unfold belonging at counted
  split at counted
  · rename_i width next more known
    split at counted
    · rename_i allowed
      rw [Bool.and_eq_true] at allowed
      have within : ((more.take (width - 2)).takeWhile isContinuation).length ≤ more.length :=
        (List.takeWhile_prefix isContinuation).length_le.trans (List.length_take_le' _ _)
      obtain ⟨less, rfl⟩ := Nat.exists_eq_succ_of_ne_zero several
      refine ⟨next, more.take less, rfl, ?_, allowed.2⟩
      rw [List.length_take]
      omega
    · exact absurd counted.symm several
  · exact absurd counted.symm several

theorem scalar_valid (whole : width? leading = some (belonging leading rest + 1))
    (nonzero : leading ≠ 0) :
    scalar leading (rest.take (belonging leading rest)) ≠ 0 ∧
      (scalar leading (rest.take (belonging leading rest))).isValidChar := by
  have positive : leading.toNat ≠ 0 := fun zero => nonzero (UInt8.toNat_inj.mp zero)
  have range := width?_eq_some whole
  by_cases alone : belonging leading rest = 0
  · rw [alone, List.take_zero]
    simp only [scalar, Nat.isValidChar, List.length_nil, List.foldl_nil]
    omega
  · obtain ⟨next, others, taken, length, follows⟩ := take_belonging alone
    have limits := bounds_of_mayFollow follows
    rw [taken]
    rw [← length] at range
    -- The cases go by how many octets come after the second one.
    rcases others with _ | ⟨third, _ | ⟨fourth, _ | ⟨fifth, more⟩⟩⟩
    case cons.cons.cons =>
      simp only [List.length_cons] at range
      omega
    all_goals
      simp only [List.length_cons, List.length_nil] at range
      simp only [scalar, Nat.isValidChar, List.length_cons, List.length_nil, List.foldl_cons,
        List.foldl_nil]
      omega

theorem nul_not_mem_repair (absent : 0 ∉ octets) : '\x00' ∉ repair octets := by
  fun_induction repair octets with
  | case1 => exact List.not_mem_nil
  | case2 leading rest count c ih =>
    rw [List.mem_cons, not_or] at absent
    have later : 0 ∉ rest.drop count := fun member => absent.2 (List.mem_of_mem_drop member)
    have first : '\x00' ≠ c := by
      by_cases whole : width? leading = some (count + 1)
      · obtain ⟨nonzero, valid⟩ := scalar_valid whole (Ne.symm absent.1)
        have number : c.toNat = scalar leading (rest.take count) := by
          rw [show c = Char.ofNat _ from if_pos whole, Char.ofNat, dif_pos valid]
          rfl
        intro same
        rw [← same] at number
        exact nonzero number.symm
      · rw [show c = '\ufffd' from if_neg whole]
        decide
    rw [List.mem_cons, not_or]
    exact ⟨first, ih later⟩

theorem zero_not_mem_utf8EncodeChar (differs : c ≠ '\x00') : 0 ∉ String.utf8EncodeChar c := by
  have positive : c.toNat ≠ 0 := fun zero => differs (Char.toNat_inj.mp zero)
  have number : c.val.toNat = c.toNat := rfl
  rw [String.utf8EncodeChar, number]
  split_ifs <;> simp [← UInt8.toNat_inj] <;> omega

theorem zero_not_mem_encode {cs : List Char} (absent : '\x00' ∉ cs) : 0 ∉ encode cs := by
  intro member
  obtain ⟨c, present, inside⟩ := List.mem_flatMap.mp member
  exact zero_not_mem_utf8EncodeChar (ne_of_mem_of_not_mem present absent) inside

end Utf8

theorem RawName.nul_not_mem_text (name : RawName) : '\x00' ∉ name.text.toList := by
  have absent : 0 ∉ name.takeWhile (· ≠ 0) := by
    intro member
    simpa using List.mem_takeWhile_imp member
  rw [text, String.toList_ofList]
  exact Utf8.nul_not_mem_repair absent

theorem RawName.zero_not_mem_text (name : RawName) : 0 ∉ Utf8.ofString name.text := by
  rw [Utf8.ofString_eq_encode]
  exact Utf8.zero_not_mem_encode name.nul_not_mem_text

end HostNet
