import HostNet.Address.Raw
import HostNet.Endpoint
import HostNet.Proofs.Address.DottedQuad
import HostNet.Proofs.Address.Layout

/-!
Addresses and sockets in the forms that other software has for them, and back. A form for the
family of the address brings back its octets and its family; the raw form of the other family holds
the part of the buffer that stands where that family has its octets.
-/

namespace HostNet

namespace Address

variable {a b : Address}

/-! ### Words -/

theorem toNat_wordOf (o : Octets 4) :
    (wordOf o).toNat = (o.get 0).toNat + 256 *
      ((o.get 1).toNat + 256 * ((o.get 2).toNat + 256 * (o.get 3).toNat)) := by
  have first := (o.get 0).toNat_lt
  have second := (o.get 1).toNat_lt
  have third := (o.get 2).toNat_lt
  have fourth := (o.get 3).toNat_lt
  have small : (o.get 0).toNat + 256 *
      ((o.get 1).toNat + 256 * ((o.get 2).toNat + 256 * (o.get 3).toNat)) < 2 ^ 32 := by
    omega
  exact Nat.mod_eq_of_lt small

theorem memoryOf_wordOf (o : Octets 4) : memoryOf (wordOf o) = o := by
  have first := (o.get 0).toNat_lt
  have second := (o.get 1).toNat_lt
  have third := (o.get 2).toNat_lt
  have fourth := (o.get 3).toNat_lt
  apply Vector.ext
  intro i within
  have octet : o[i] = o.get ⟨i, within⟩ := rfl
  rw [memoryOf, Vector.getElem_ofFn, octet, toNat_wordOf, Nat.shiftRight_eq_div_pow,
    ← UInt8.toNat_inj]
  have cases : i = 0 ∨ i = 1 ∨ i = 2 ∨ i = 3 := by omega
  rcases cases with rfl | rfl | rfl | rfl <;> simp <;> omega

theorem lastFour_v4 (o : Octets 4) : (Address.v4 o).lastFour = o :=
  Address.v4.inj (Layout.address_layout (.v4 o))

/-- The word of any address is made of the last four octets of its buffer. -/
theorem ofRawV4_rawV4 (a : Address) : ofRawV4 a.rawV4 = .v4 a.lastFour := by
  rw [ofRawV4, rawV4, memoryOf_wordOf]

/-! ### Octets in memory -/

theorem ofOctets?_v4 (o : Octets 4) (scope : UInt32) : ofOctets? o.toList scope = some (.v4 o) := by
  simp only [ofOctets?, Octets.ofList?_toList]

theorem ofOctets?_v6 (o : Octets 16) (scope : UInt32) :
    ofOctets? o.toList scope = some (.v6 o scope) := by
  have long : o.toList.length ≠ 4 := by
    rw [Vector.length_toList]
    decide
  have notV4 : (Octets.ofList? o.toList : Option (Octets 4)) = none := dif_neg long
  simp only [ofOctets?, notV4, Octets.ofList?_toList, Option.map_some]

theorem ofMemory_v4 (o : Octets 4) (scope : UInt32) : ofMemory o.toList scope = .ok (.v4 o) := by
  rw [ofMemory, ofOctets?_v4]

theorem ofMemory_v6 (o : Octets 16) (scope : UInt32) :
    ofMemory o.toList scope = .ok (.v6 o scope) := by
  rw [ofMemory, ofOctets?_v6]

theorem ofMemory_octets_iff : ofMemory a.octets a.scope = .ok a ↔ a.family ≠ .unspecified := by
  cases a with
  | unspecified =>
    constructor
    · intro read
      cases read
    · intro known
      exact absurd rfl known
  | v4 o => exact iff_of_true (ofMemory_v4 o _) nofun
  | v6 o scope => exact iff_of_true (ofMemory_v6 o scope) nofun

/-! ### All forms together -/

/-- The forms of an address: its octets, the raw form of either family, the address and the socket
address of the standard kind. What the form does not hold is given for the way back. -/
inductive Form where
  | memory (scope : UInt32)
  | rawV4
  | rawV6 (scope : UInt32)
  | standard
  | socket (portNumber : UInt16)
  deriving DecidableEq, Repr

/-- What an address comes back as from a form. -/
def Form.back : Form → Address → Option Address
  | .memory scope, a => (ofMemory a.octets scope).toOption
  | .rawV4, a => some (ofRawV4 a.rawV4)
  | .rawV6 scope, a => some (ofRawV6 a.rawV6 scope)
  | .standard, a => a.standard?.map ofStandard
  | .socket number, a =>
    (Endpoint.mk a number).standardSocket?.map fun s => (Endpoint.ofStandardSocket s).address

/-- A form is for all addresses that have a family, a raw form for those of one family. -/
def Form.Fits : Form → Family → Prop
  | .rawV4, family => family = .ipv4
  | .rawV6 _, family => family = .ipv6
  | _, family => family ≠ .unspecified

theorem Form.Fits.known {form : Form} {family : Family} (fits : form.Fits family) :
    family ≠ .unspecified := by
  cases form with
  | rawV4 => cases fits; exact nofun
  | rawV6 => cases fits; exact nofun
  | memory => exact fits
  | standard => exact fits
  | socket => exact fits

theorem back_of_fits {form : Form} (fits : form.Fits a.family) :
    ∃ b, form.back a = some b ∧ b.family = a.family ∧ b.octets = a.octets := by
  cases a with
  | unspecified => exact absurd rfl fits.known
  | v4 o =>
    refine ⟨.v4 o, ?_, rfl, rfl⟩
    cases form with
    | memory scope => rw [Form.back, octets, ofMemory_v4]; rfl
    | rawV4 => rw [Form.back, ofRawV4_rawV4, lastFour_v4]
    | rawV6 => cases fits
    | standard => rfl
    | socket => rfl
  | v6 o own =>
    cases form with
    | memory scope => exact ⟨.v6 o scope, by rw [Form.back, octets, ofMemory_v6]; rfl, rfl, rfl⟩
    | rawV4 => cases fits
    | rawV6 scope => exact ⟨.v6 o scope, rfl, rfl, rfl⟩
    | standard => exact ⟨.v6 o 0, rfl, rfl, rfl⟩
    | socket => exact ⟨.v6 o own, rfl, rfl, rfl⟩

theorem fits_of_back {form : Form} (found : form.back a = some b) (same : b.family = a.family) :
    form.Fits a.family := by
  cases form with
  | rawV4 =>
    cases found
    exact same.symm
  | rawV6 scope =>
    cases found
    exact same.symm
  | memory | standard | socket =>
    intro unknown
    rw [family_eq_unspecified_iff.mp unknown] at found
    cases found

end Address

/-! ### Sockets -/

/-- The same socket address without flow information. -/
def StandardSocket.flowless : StandardSocket → StandardSocket
  | .v4 octets number => .v4 octets number
  | .v6 octets number _ scope => .v6 octets number 0 scope

namespace Endpoint

variable {e : Endpoint}

theorem standardSocket?_eq_none_iff : e.standardSocket? = none ↔ e.family = .unspecified := by
  obtain ⟨a, number⟩ := e
  cases a <;> simp [standardSocket?, family, Address.family]

theorem ofStandardSocket_standardSocket?_iff :
    e.standardSocket?.map ofStandardSocket = some e ↔ e.family ≠ .unspecified := by
  obtain ⟨a, number⟩ := e
  cases a <;> simp [standardSocket?, ofStandardSocket, family, Address.family]

theorem standardSocket?_ofStandardSocket (s : StandardSocket) :
    (ofStandardSocket s).standardSocket? = some s.flowless := by
  cases s <;> rfl

end Endpoint

namespace Address

/-- Forms for the family of an address bring back its family and its octets, and its scope where they
hold one; sockets come back without flow information. The raw forms of the other family bring back
the last four octets of the buffer, and all of it. -/
theorem conversions_return :
    (∀ a : Address, ofMemory a.octets a.scope = .ok a ↔ a.family ≠ .unspecified) ∧
    (∀ o : Octets 4, ofRawV4 (v4 o).rawV4 = .v4 o ∧
      (v4 o).standard?.map ofStandard = some (.v4 o)) ∧
    (∀ (o : Octets 16) (own scope : UInt32), ofRawV6 (v6 o own).rawV6 scope = .v6 o scope ∧
      (v6 o own).standard?.map ofStandard = some (.v6 o 0)) ∧
    (∀ e : Endpoint, e.standardSocket?.map Endpoint.ofStandardSocket = some e ↔
      e.family ≠ .unspecified) ∧
    (∀ s : StandardSocket, (Endpoint.ofStandardSocket s).standardSocket? = some s.flowless) ∧
    (∀ e : Endpoint, e.standardSocket? = none ↔ e.family = .unspecified) ∧
    (∀ (form : Form) (a : Address),
      (∃ b, form.back a = some b ∧ b.family = a.family ∧ b.octets = a.octets) ↔
        form.Fits a.family) ∧
    (∀ a : Address, ofRawV4 a.rawV4 = .v4 a.lastFour) ∧
    ∀ (a : Address) (scope : UInt32), ofRawV6 a.rawV6 scope = .v6 a.buffer scope := by
  refine ⟨fun _ => ofMemory_octets_iff, fun o => ⟨?_, rfl⟩, fun _ _ _ => ⟨rfl, rfl⟩,
    fun _ => Endpoint.ofStandardSocket_standardSocket?_iff,
    Endpoint.standardSocket?_ofStandardSocket, fun _ => Endpoint.standardSocket?_eq_none_iff, ?_,
    ofRawV4_rawV4, fun _ _ => rfl⟩
  · rw [ofRawV4_rawV4, lastFour_v4]
  · intro form a
    constructor
    · rintro ⟨b, found, same, -⟩
      exact fits_of_back found same
    · exact back_of_fits

/-- The octets of an IPv6 address that holds an IPv4 one at its end, in the compatible or in the
mapped form. -/
def Embeds (octets : Octets 16) : Prop :=
  isV4CompatibleForm octets = true ∨
    octets.toList.take 12 = List.replicate 10 0 ++ [0xff, 0xff]

/-- The mapped form of 1.2.3.4. -/
def mappedOne : Octets 16 :=
  #v[0, 0, 0, 0, 0, 0, 0, 0, 0, 0, 0xff, 0xff, 1, 2, 3, 4]

/-- An embedded address is taken out by the word, and put in by the sixteen octets. -/
theorem embedded_taken_out :
    Embeds mappedOne ∧ Form.rawV4.back (.v6 mappedOne 0) = some (.v4 #v[1, 2, 3, 4]) ∧
    ((Form.rawV6 0).back (.v4 #v[1, 2, 3, 4])).map family = some .ipv6 ∧
    ¬ ∀ (form : Form) (octets : Octets 16) (scope : UInt32) (o : Octets 4), Embeds octets →
      form.back (.v6 octets scope) ≠ some (.v4 o) := by
  have embeds : Embeds mappedOne := .inr rfl
  have taken : Form.rawV4.back (.v6 mappedOne 0) = some (.v4 #v[1, 2, 3, 4]) := rfl
  exact ⟨embeds, taken, rfl, fun kept => kept .rawV4 mappedOne 0 #v[1, 2, 3, 4] embeds taken⟩

end Address

end HostNet
