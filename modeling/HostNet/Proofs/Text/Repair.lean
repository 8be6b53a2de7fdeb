import HostNet.Proofs.Text.ZeroFree

/-!
What repair keeps. Octets that are read as a character are the encoding of that character, so text
without a replacement character can be spelled in one way only; and octets come through unchanged
just if they are UTF-8.
-/

namespace HostNet

namespace Utf8

variable {leading next third fourth : UInt8} {rest others octets : List UInt8} {n : Nat}

theorem val_toNat_ofNat (valid : n.isValidChar) : (Char.ofNat n).val.toNat = n := by
  rw [Char.ofNat, dif_pos valid]
  rfl

theorem ofNat_eq {b : UInt8} (value : n = b.toNat) : UInt8.ofNat n = b := by
  rw [value, UInt8.ofNat_toNat]

theorem bounds_of_isContinuation {b : UInt8} (continues : isContinuation b = true) :
    0x80 ≤ b.toNat ∧ b.toNat ≤ 0xbf := by
  simpa [isContinuation, UInt8.le_iff_toNat_le] using continues

/-! ### Encoding what was read -/

theorem utf8EncodeChar_one (low : leading.toNat ≤ 0x7f) :
    String.utf8EncodeChar (Char.ofNat (scalar leading [])) = [leading] := by
  have value : scalar leading [] = leading.toNat := rfl
  have valid : leading.toNat.isValidChar := by
    rw [Nat.isValidChar]
    omega
  rw [value, String.utf8EncodeChar, val_toNat_ofNat valid]
  simp only [if_pos low, UInt8.ofNat_toNat]

theorem utf8EncodeChar_two (low : 0xc2 ≤ leading.toNat) (high : leading.toNat ≤ 0xdf)
    (follows : mayFollow leading next = true) :
    String.utf8EncodeChar (Char.ofNat (scalar leading [next])) = [leading, next] := by
  have limits := bounds_of_mayFollow follows
  have value : scalar leading [next] = leading.toNat % 0x20 * 0x40 + next.toNat % 0x40 := rfl
  generalize scalar leading [next] = n at value ⊢
  have valid : n.isValidChar := by
    rw [Nat.isValidChar]
    omega
  have above : ¬ n ≤ 0x7f := by omega
  have below : n ≤ 0x7ff := by omega
  rw [String.utf8EncodeChar, val_toNat_ofNat valid]
  simp only [if_neg above, if_pos below]
  rw [ofNat_eq (b := leading) (by omega), ofNat_eq (b := next) (by omega)]

theorem utf8EncodeChar_three (low : 0xe0 ≤ leading.toNat) (high : leading.toNat ≤ 0xef)
    (follows : mayFollow leading next = true) (continues : isContinuation third = true) :
    String.utf8EncodeChar (Char.ofNat (scalar leading [next, third])) =
      [leading, next, third] := by
  have limits := bounds_of_mayFollow follows
  have tail := bounds_of_isContinuation continues
  have value : scalar leading [next, third] =
      (leading.toNat % 0x10 * 0x40 + next.toNat % 0x40) * 0x40 + third.toNat % 0x40 := rfl
  generalize scalar leading [next, third] = n at value ⊢
  have valid : n.isValidChar := by
    rw [Nat.isValidChar]
    omega
  have aboveOne : ¬ n ≤ 0x7f := by omega
  have aboveTwo : ¬ n ≤ 0x7ff := by omega
  have below : n ≤ 0xffff := by omega
  rw [String.utf8EncodeChar, val_toNat_ofNat valid]
  simp only [if_neg aboveOne, if_neg aboveTwo, if_pos below]
  rw [ofNat_eq (b := leading) (by omega), ofNat_eq (b := next) (by omega),
    ofNat_eq (b := third) (by omega)]

theorem utf8EncodeChar_four (low : 0xf0 ≤ leading.toNat) (high : leading.toNat ≤ 0xf4)
    (follows : mayFollow leading next = true) (continues : isContinuation third = true)
    (ends : isContinuation fourth = true) :
    String.utf8EncodeChar (Char.ofNat (scalar leading [next, third, fourth])) =
      [leading, next, third, fourth] := by
  have limits := bounds_of_mayFollow follows
  have middle := bounds_of_isContinuation continues
  have tail := bounds_of_isContinuation ends
  have value : scalar leading [next, third, fourth] =
      ((leading.toNat % 0x08 * 0x40 + next.toNat % 0x40) * 0x40 + third.toNat % 0x40) * 0x40 +
        fourth.toNat % 0x40 := rfl
  generalize scalar leading [next, third, fourth] = n at value ⊢
  have valid : n.isValidChar := by
    rw [Nat.isValidChar]
    omega
  have aboveOne : ¬ n ≤ 0x7f := by omega
  have aboveTwo : ¬ n ≤ 0x7ff := by omega
  have aboveThree : ¬ n ≤ 0xffff := by omega
  rw [String.utf8EncodeChar, val_toNat_ofNat valid]
  simp only [if_neg aboveOne, if_neg aboveTwo, if_neg aboveThree]
  rw [ofNat_eq (b := leading) (by omega), ofNat_eq (b := next) (by omega),
    ofNat_eq (b := third) (by omega), ofNat_eq (b := fourth) (by omega)]

/-- After the first octet that belongs to a leading one come continuations alone. -/
theorem continues_of_belonging (taken : rest.take (belonging leading rest) = next :: others) :
    ∀ b ∈ others, isContinuation b = true := by
  unfold belonging at taken
  split at taken
  · rename_i width first more known
    split at taken
    · have front : (more.take (width - 2)).takeWhile isContinuation <+: more :=
        (List.takeWhile_prefix isContinuation).trans (List.take_prefix _ _)
      rw [Nat.add_comm, List.take_succ_cons, ← List.prefix_iff_eq_take.mp front] at taken
      obtain ⟨-, rfl⟩ := List.cons.inj taken
      exact fun b member => List.mem_takeWhile_imp member
    · cases taken
  · cases taken

theorem utf8EncodeChar_scalar (whole : width? leading = some (belonging leading rest + 1)) :
    String.utf8EncodeChar (Char.ofNat (scalar leading (rest.take (belonging leading rest)))) =
      leading :: rest.take (belonging leading rest) := by
  have range := width?_eq_some whole
  by_cases alone : belonging leading rest = 0
  · rw [alone] at range
    rw [alone, List.take_zero]
    exact utf8EncodeChar_one (by omega)
  · obtain ⟨next, others, taken, length, follows⟩ := take_belonging alone
    have continues := continues_of_belonging taken
    rw [← length] at range
    rw [taken]
    match others, range, continues with
    | [], range, _ =>
      simp only [List.length_nil] at range
      exact utf8EncodeChar_two (by omega) (by omega) follows
    | [third], range, continues =>
      simp only [List.length_cons, List.length_nil] at range
      exact utf8EncodeChar_three (by omega) (by omega) follows (continues third (by simp))
    | [third, fourth], range, continues =>
      simp only [List.length_cons, List.length_nil] at range
      exact utf8EncodeChar_four (by omega) (by omega) follows (continues third (by simp))
        (continues fourth (by simp))
    | _ :: _ :: _ :: more, range, _ =>
      simp only [List.length_cons] at range
      omega

/-- Without a replacement character, every octet was read. -/
theorem encode_repair (absent : '\ufffd' ∉ repair octets) : encode (repair octets) = octets := by
  fun_induction repair octets with
  | case1 => rfl
  | case2 leading rest count c ih =>
    rw [List.mem_cons, not_or] at absent
    by_cases whole : width? leading = some (count + 1)
    · have read : String.utf8EncodeChar c = leading :: rest.take count := by
        rw [show c = Char.ofNat (scalar leading (rest.take count)) from if_pos whole]
        exact utf8EncodeChar_scalar whole
      have behind : encode (repair (rest.drop count)) = rest.drop count := ih absent.2
      rw [encode] at behind
      rw [encode, List.flatMap_cons, read, behind, List.cons_append, List.take_append_drop]
    · exact absurd (if_neg whole).symm absent.1

theorem isSome_decode?_iff : (decode? octets).isSome = true ↔ encode (repair octets) = octets := by
  constructor
  · intro valid
    obtain ⟨s, decoded⟩ := Option.isSome_iff_exists.mp valid
    have kept := ofString_repair decoded
    rwa [ofString_eq_encode, String.toList_ofList] at kept
  · intro kept
    have spelled := ofString_eq_encode (String.ofList (repair octets))
    rw [String.toList_ofList, kept] at spelled
    rw [← spelled, decode?_ofString]
    rfl

end Utf8

namespace RawName

variable {name other : RawName}

/-- The octets that spell the name. -/
def octets (name : RawName) : List UInt8 :=
  name.takeWhile (· ≠ 0)

def IsUtf8 (name : RawName) : Prop :=
  (Utf8.decode? name.octets).isSome = true

theorem toList_text (name : RawName) : name.text.toList = Utf8.repair name.octets :=
  String.toList_ofList

theorem ofString_text (name : RawName) :
    Utf8.ofString name.text = Utf8.encode (Utf8.repair name.octets) := by
  rw [Utf8.ofString_eq_encode, toList_text]

/-- The text of a name spells the name itself just if that is UTF-8. -/
theorem ofString_text_eq_iff : Utf8.ofString name.text = name.octets ↔ name.IsUtf8 := by
  rw [ofString_text, IsUtf8, Utf8.isSome_decode?_iff]

theorem replacement_mem_text (damaged : ¬ name.IsUtf8) : '\ufffd' ∈ name.text.toList := by
  by_contra absent
  rw [toList_text] at absent
  exact damaged (Utf8.isSome_decode?_iff.mpr (Utf8.encode_repair absent))

/-- Different names have one text only where repair changed one of them. -/
theorem damaged_of_text_eq (same : name.text = other.text) (different : name.octets ≠ other.octets) :
    '\ufffd' ∈ name.text.toList ∧ (¬ name.IsUtf8 ∨ ¬ other.IsUtf8) := by
  have damaged : ¬ name.IsUtf8 ∨ ¬ other.IsUtf8 := by
    by_contra both
    rw [not_or, not_not, not_not] at both
    have first := ofString_text_eq_iff.mpr both.1
    rw [same, ofString_text_eq_iff.mpr both.2] at first
    exact different first.symm
  refine ⟨?_, damaged⟩
  rcases damaged with damaged | damaged
  · exact replacement_mem_text damaged
  · exact same ▸ replacement_mem_text damaged

end RawName

end HostNet
