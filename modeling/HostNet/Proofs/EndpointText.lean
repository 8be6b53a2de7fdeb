import HostNet.Endpoint
import HostNet.Proofs.Address.Layout
import HostNet.Proofs.Address.Rendering

/-!
Endpoints and their texts. The port number stands behind the last colon, and brackets keep the
colons of an IPv6 address apart from that one, so no two endpoints have the same text.
-/

namespace HostNet

namespace Address

variable {a b : Address}

theorem identity_inj : a.identity = b.identity ↔ a = b := by
  constructor
  · intro same
    have layouts : a.layout = b.layout :=
      (Layout.canonical_layout a).eq_of_same (Layout.canonical_layout b)
        (Layout.same_iff_identity.mpr same)
    rw [← Layout.address_layout a, layouts, Layout.address_layout b]
  · rintro rfl
    rfl

/-- The address as it stands in front of a port number. -/
def host (a : Address) : List Char :=
  if a.family = .ipv6 then '[' :: (a.text.toList ++ [']']) else a.text.toList

theorem colon_mem_host_iff : ':' ∈ a.host ↔ a.family = .ipv6 := by
  unfold host
  split
  · rename_i grouped
    have member : ':' ∈ a.text.toList := colon_mem_text_iff.mpr grouped
    exact iff_of_true (List.mem_cons_of_mem _ (List.mem_append_left _ member)) grouped
  · exact colon_mem_text_iff

theorem host_inj (same : a.host = b.host) : a = b := by
  have families : a.family = .ipv6 ↔ b.family = .ipv6 := by
    rw [← colon_mem_host_iff, same, colon_mem_host_iff]
  apply eq_of_text_eq
  apply String.toList_inj.mp
  unfold host at same
  by_cases grouped : b.family = .ipv6
  · rw [if_pos (families.mpr grouped), if_pos grouped] at same
    exact List.append_cancel_right (List.tail_eq_of_cons_eq same)
  · rw [if_neg (mt families.mp grouped), if_neg grouped] at same
    exact same

end Address

namespace Endpoint

variable {e f : Endpoint}

theorem toList_text (e : Endpoint) :
    e.text.toList = e.address.host ++ ':' :: Numeral.decimal e.portNumber.toNat := by
  obtain ⟨a, number⟩ := e
  cases a with
  | unspecified => exact String.toList_ofList
  | v4 octets => exact String.toList_ofList
  | v6 octets scope =>
    have bracketed : (Address.v6 octets scope).host =
      '[' :: ((Address.v6 octets scope).text.toList ++ [']']) := if_pos rfl
    rw [bracketed, text]
    simp [family, Address.family]

theorem colon_not_mem_decimal (n : Nat) : ':' ∉ Numeral.decimal n :=
  Numeral.not_mem_toDigits (by decide) (by decide) (by decide)

theorem eq_of_text_eq (same : e.text = f.text) : e = f := by
  obtain ⟨a, first⟩ := e
  obtain ⟨b, second⟩ := f
  have characters := congrArg String.toList same
  rw [toList_text, toList_text] at characters
  obtain ⟨hosts, digits⟩ := Text.append_mark_inj (colon_not_mem_decimal first.toNat)
    (colon_not_mem_decimal second.toNat) characters
  have addresses : a = b := Address.host_inj hosts
  have numbers : first.toNat = second.toNat := Numeral.decimal_inj digits
  rw [addresses, UInt16.toNat_inj.mp numbers]

theorem identity_inj : e.identity = f.identity ↔ e = f := by
  obtain ⟨a, first⟩ := e
  obtain ⟨b, second⟩ := f
  simp [identity, Address.identity_inj]

/-- Endpoints of any families have the same text just if they are equal, and that is as equality of
endpoints is decided: by buffer, family and scope of the address and by the port number. -/
theorem texts_unambiguous (e f : Endpoint) :
    (e.text = f.text ↔ e = f) ∧ (e.text = f.text ↔ e.identity = f.identity) := by
  have told : e.text = f.text ↔ e = f := ⟨eq_of_text_eq, congrArg text⟩
  exact ⟨told, told.trans identity_inj.symm⟩

example :
    let e : Endpoint := ⟨.v6 #v[0xfe, 0x80, 0, 0, 0, 0, 0, 0, 0, 0, 0, 0, 0, 0, 0, 1] 2, 53⟩
    e.text = "[fe80::1%2]:53" := by
  cbv

end Endpoint

end HostNet
