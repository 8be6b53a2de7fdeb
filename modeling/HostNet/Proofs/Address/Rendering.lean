import HostNet.Proofs.Address.Presentation
import HostNet.Proofs.Text.Utf8

/-!
The text of an address always finds room, with its end mark, in what a converter may write. So it is
empty for the undefined address alone, and the marks in it tell the family and whether there is a
scope.
-/

namespace HostNet

theorem ascii_of_isDigit {c : Char} (digit : c.isDigit = true) : c.toNat < 128 := by
  have range : 48 ≤ c.toNat ∧ c.toNat ≤ 57 := Char.isDigit_iff_toNat.mp digit
  omega

namespace DottedQuad

variable {c : Char}

theorem digit_or_point (octets : Octets 4) (member : c ∈ write octets) :
    c.isDigit = true ∨ c = '.' := by
  rcases mem_write octets member with point | ⟨b, digit⟩
  · exact .inr point
  · exact .inl (Nat.isDigit_of_mem_toDigits (by decide) (by decide) digit)

theorem ascii_write (octets : Octets 4) : ∀ c ∈ write octets, c.toNat < 128 := by
  intro c member
  rcases digit_or_point octets member with digit | rfl
  · exact ascii_of_isDigit digit
  · decide

end DottedQuad

namespace ColonGroups

variable {style : Style} {octets : Octets 16} {c : Char}

theorem lower_digitChar {d : Nat} (small : d < 16) :
    (Nat.digitChar d).isDigit = true ∨ ('a' ≤ Nat.digitChar d ∧ Nat.digitChar d ≤ 'f') := by
  have digits : ∀ d < 16, (Nat.digitChar d).isDigit = true ∨
      ('a' ≤ Nat.digitChar d ∧ Nat.digitChar d ≤ 'f') := by decide
  exact digits d small

theorem digit_or_mark (member : c ∈ write style octets) :
    c.isDigit = true ∨ ('a' ≤ c ∧ c ≤ 'f') ∨ c = ':' ∨ c = '.' := by
  rcases letter_of_mem_write member with colon | point | ⟨d, small, rfl⟩
  · exact .inr (.inr (.inl colon))
  · exact .inr (.inr (.inr point))
  · rcases lower_digitChar small with figure | letter
    · exact .inl figure
    · exact .inr (.inl letter)

theorem ascii_write (style : Style) (octets : Octets 16) :
    ∀ c ∈ write style octets, c.toNat < 128 := by
  intro c member
  rcases digit_or_mark member with digit | ⟨-, last⟩ | rfl | rfl
  · exact ascii_of_isDigit digit
  · have range : c.toNat ≤ 102 := last
    omega
  · decide
  · decide

end ColonGroups

namespace Address

variable {a : Address}

theorem toList_text_v4 (octets : Octets 4) :
    (v4 octets).text.toList = DottedQuad.write octets := by
  rw [text_v4, String.toList_ofList]

def scopePart (scope : UInt32) : List Char :=
  if scope = 0 then [] else '%' :: Numeral.decimal scope.toNat

theorem toList_text_v6 (octets : Octets 16) (scope : UInt32) :
    (v6 octets scope).text.toList = ColonGroups.write .platform octets ++ scopePart scope := by
  unfold scopePart
  split
  · rename_i zero
    rw [zero, text_unscoped, String.toList_ofList, List.append_nil]
  · rename_i nonzero
    rw [text_scoped octets nonzero, String.toList_ofList]

theorem toList_text_eq_nil_iff : a.text.toList = [] ↔ a.family = .unspecified := by
  cases a with
  | unspecified => exact iff_of_true rfl rfl
  | v4 octets =>
    have written := List.ne_nil_of_mem (DottedQuad.point_mem_write octets)
    rw [toList_text_v4]
    exact iff_of_false written nofun
  | v6 octets scope =>
    have written := List.ne_nil_of_mem (ColonGroups.colon_mem_write .platform octets)
    rw [toList_text_v6]
    exact iff_of_false (List.append_ne_nil_of_left_ne_nil written _) nofun

theorem colon_mem_text_iff : ':' ∈ a.text.toList ↔ a.family = .ipv6 := by
  cases a with
  | unspecified => exact iff_of_false List.not_mem_nil nofun
  | v4 octets =>
    rw [toList_text_v4]
    exact iff_of_false (DottedQuad.colon_not_mem_write octets) nofun
  | v6 octets scope =>
    rw [toList_text_v6]
    exact iff_of_true (List.mem_append_left _ (ColonGroups.colon_mem_write .platform octets)) rfl

theorem percent_mem_scopePart_iff {scope : UInt32} : '%' ∈ scopePart scope ↔ scope ≠ 0 := by
  unfold scopePart
  split
  · rename_i zero
    exact iff_of_false List.not_mem_nil (not_not_intro zero)
  · rename_i nonzero
    exact iff_of_true List.mem_cons_self nonzero

theorem percent_mem_text_iff : '%' ∈ a.text.toList ↔ a.family = .ipv6 ∧ a.scope ≠ 0 := by
  cases a with
  | unspecified => exact iff_of_false List.not_mem_nil nofun
  | v4 octets =>
    rw [toList_text_v4]
    exact iff_of_false (DottedQuad.percent_not_mem_write octets) nofun
  | v6 octets scope =>
    have plain := ColonGroups.percent_not_mem_write .platform octets
    rw [toList_text_v6, List.mem_append, or_iff_right plain, percent_mem_scopePart_iff]
    exact (and_iff_right rfl).symm

/-- Converters have room for what they write, whatever the octets: the text with its end mark takes
sixteen octets at most for IPv4, and 46 for IPv6. No address with a family is shown as nothing, and
colon and percent sign tell IPv6 addresses and their scopes. -/
theorem renderings_fit :
    (∀ octets : Octets 4, DottedQuad.write octets ≠ [] ∧
      (∀ c ∈ DottedQuad.write octets, c.isDigit = true ∨ c = '.') ∧
      fitted Room.usual.v4 (DottedQuad.write octets) = some (DottedQuad.write octets) ∧
      (Utf8.encode (DottedQuad.write octets)).length + 1 ≤ 16) ∧
    (∀ octets : Octets 16, ':' ∈ ColonGroups.write .platform octets ∧
      (∀ c ∈ ColonGroups.write .platform octets,
        c.isDigit = true ∨ ('a' ≤ c ∧ c ≤ 'f') ∨ c = ':' ∨ c = '.') ∧
      '%' ∉ ColonGroups.write .platform octets ∧ '\x00' ∉ ColonGroups.write .platform octets ∧
      fitted Room.usual.v6 (ColonGroups.write .platform octets) =
        some (ColonGroups.write .platform octets) ∧
      (Utf8.encode (ColonGroups.write .platform octets)).length + 1 ≤ 46) ∧
    ∀ a : Address, (a.text = "" ↔ a.family = .unspecified) ∧
      (':' ∈ a.text.toList ↔ a.family = .ipv6) ∧
      ('%' ∈ a.text.toList ↔ a.family = .ipv6 ∧ a.scope ≠ 0) := by
  refine ⟨fun octets => ?_, fun octets => ?_, fun a => ?_⟩
  · have room := DottedQuad.length_write_lt octets
    rw [← Utf8.length_encode_of_ascii (DottedQuad.ascii_write octets)] at room
    exact ⟨List.ne_nil_of_mem (DottedQuad.point_mem_write octets),
      fun c member => DottedQuad.digit_or_point octets member, room_v4 octets, room⟩
  · have room := ColonGroups.length_write_lt .platform octets
    rw [← Utf8.length_encode_of_ascii (ColonGroups.ascii_write .platform octets)] at room
    exact ⟨ColonGroups.colon_mem_write .platform octets,
      fun c member => ColonGroups.digit_or_mark member,
      ColonGroups.percent_not_mem_write .platform octets,
      ColonGroups.nul_not_mem_write .platform octets, room_v6 octets, room⟩
  · have empty : a.text = "" ↔ a.text.toList = [] := String.toList_eq_nil_iff.symm
    exact ⟨empty.trans toList_text_eq_nil_iff, colon_mem_text_iff, percent_mem_text_iff⟩

end Address

end HostNet
