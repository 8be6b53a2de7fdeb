import HostNet.Address.DottedQuad
import HostNet.Proofs.Text.Fields
import HostNet.Proofs.Text.Numeral

/-!
The dotted form of four octets is read as these octets. It is short, and made of digits and dots.
-/

namespace HostNet

theorem Octets.ofList?_toList {n : Nat} (octets : Octets n) :
    Octets.ofList? octets.toList = some octets := by
  have size : octets.toList.length = n := by simp
  rw [Octets.ofList?, dif_pos size]
  rfl

namespace DottedQuad

variable {c : Char}

theorem octet?_decimal (b : UInt8) : octet? (Numeral.decimal b.toNat) = some b := by
  have read : Numeral.read? 10 (Numeral.decimal b.toNat) = some b.toNat :=
    Numeral.read?_toDigits (by decide) (by decide) _
  have small : b.toNat < 256 := b.toNat_lt
  have short : (Numeral.decimal b.toNat).head? = some '0' → (Numeral.decimal b.toNat).length = 1 :=
    Numeral.length_of_head_zero (by decide)
  simp only [octet?, read]
  rw [if_pos ⟨small, short⟩, UInt8.ofNat_toNat]

theorem mem_write (octets : Octets 4) (member : c ∈ write octets) :
    c = '.' ∨ ∃ b : UInt8, c ∈ Numeral.decimal b.toNat := by
  rcases Text.mem_joined member with member | ⟨part, present, member⟩
  · exact .inl (List.mem_singleton.mp member)
  · obtain ⟨b, _, rfl⟩ := List.mem_map.mp present
    exact .inr ⟨b, member⟩

theorem not_mem_write (octets : Octets 4) (point : c ≠ '.')
    (foreign : ∀ d, d < 16 → c ≠ Nat.digitChar d) : c ∉ write octets := by
  intro member
  rcases mem_write octets member with dot | ⟨b, digit⟩
  · exact point dot
  · exact Numeral.not_mem_toDigits (by decide) (by decide) foreign digit

theorem nul_not_mem_write (octets : Octets 4) : '\x00' ∉ write octets :=
  not_mem_write octets (by decide) (by decide)

theorem colon_not_mem_write (octets : Octets 4) : ':' ∉ write octets :=
  not_mem_write octets (by decide) (by decide)

theorem percent_not_mem_write (octets : Octets 4) : '%' ∉ write octets :=
  not_mem_write octets (by decide) (by decide)

theorem length_decimal_le (b : UInt8) : (Numeral.decimal b.toNat).length ≤ 3 := by
  have small : b.toNat < 10 ^ 3 := by
    have bound := b.toNat_lt
    omega
  exact (Nat.length_toDigits_le_iff (by decide) (by decide)).mpr small

theorem length_write_lt (octets : Octets 4) : (write octets).length < 16 := by
  have narrow : ∀ part ∈ octets.toList.map fun b => Numeral.decimal b.toNat, part.length ≤ 3 := by
    intro part member
    obtain ⟨b, _, rfl⟩ := List.mem_map.mp member
    exact length_decimal_le b
  have bound := Text.length_joined_le '.' 3 narrow
  rw [List.length_map, Vector.length_toList] at bound
  unfold write
  omega

theorem read?_write (octets : Octets 4) : read? (write octets) = some octets := by
  have present : (octets.toList.map fun b => Numeral.decimal b.toNat) ≠ [] :=
    List.ne_nil_of_length_pos (by simp)
  have pointless : ∀ part ∈ octets.toList.map fun b => Numeral.decimal b.toNat, '.' ∉ part := by
    intro part member
    obtain ⟨b, _, rfl⟩ := List.mem_map.mp member
    exact Numeral.not_mem_toDigits (by decide) (by decide) (by decide)
  have inverse : (octet? ∘ fun b : UInt8 => Numeral.decimal b.toNat) = fun b => pure b := by
    funext b
    exact octet?_decimal b
  rw [read?, write, Text.fields_joined present pointless, List.mapM_map, inverse, List.mapM_pure,
    List.map_id']
  exact Octets.ofList?_toList octets

theorem point_mem_write (octets : Octets 4) : '.' ∈ write octets := by
  apply Text.separator_mem_joined
  rw [List.length_map, Vector.length_toList]
  decide

end DottedQuad

end HostNet
