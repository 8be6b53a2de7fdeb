import HostNet.Address.Class
import HostNet.Proofs.Address.Layout

/-!
The classes of addresses and the reaches of multicast addresses do not overlap. Each class has
leading octets of its own, which the classes of no other address share.
-/

namespace HostNet.Address

inductive Class where
  | anyLocal
  | loopback
  | linkLocal
  | siteLocal
  | multicast
  deriving DecidableEq, Repr

def isOf : Class → Address → Bool
  | .anyLocal => isAnyLocal
  | .loopback => isLoopback
  | .linkLocal => isLinkLocal
  | .siteLocal => isSiteLocal
  | .multicast => isMulticast

variable {a : Address} {c d : Class} {reach other : Reach} {scope : UInt32}

/-- The first octets of the IPv4 addresses in a class. -/
def Class.LeadsV4 (first : UInt8) : Class → Prop
  | .anyLocal => first.toNat = 0
  | .loopback => first.toNat = 127
  | .linkLocal => first.toNat = 169
  | .siteLocal => first.toNat = 10 ∨ first.toNat = 172 ∨ first.toNat = 192
  | .multicast => 224 ≤ first.toNat ∧ first.toNat ≤ 239

/-- The first, the second and the last octet of the IPv6 addresses in a class. -/
def Class.LeadsV6 (first second last : UInt8) : Class → Prop
  | .anyLocal => first.toNat = 0 ∧ last.toNat = 0
  | .loopback => first.toNat = 0 ∧ last.toNat = 1
  | .linkLocal => first.toNat = 254 ∧ 128 ≤ second.toNat ∧ second.toNat ≤ 191
  | .siteLocal => first.toNat = 254 ∧ 192 ≤ second.toNat
  | .multicast => first.toNat = 255

theorem Class.LeadsV4.unique {first : UInt8} (leads : c.LeadsV4 first) (also : d.LeadsV4 first) :
    c = d := by
  cases c <;> cases d <;> simp only [LeadsV4] at leads also <;> first | rfl | omega

theorem Class.LeadsV6.unique {first second last : UInt8} (leads : c.LeadsV6 first second last)
    (also : d.LeadsV6 first second last) : c = d := by
  cases c <;> cases d <;> simp only [LeadsV6] at leads also <;> first | rfl | omega

/-! ### Masks -/

/-- What holds of octets can be checked value by value. -/
theorem forall_octet {P : UInt8 → Prop} (each : ∀ n < 256, P (UInt8.ofNat n)) (b : UInt8) : P b := by
  have value := each b.toNat b.toNat_lt
  rwa [UInt8.ofNat_toNat] at value

theorem and_f0_eq_e0_iff : ∀ b : UInt8, b &&& 0xf0 = 0xe0 ↔ 224 ≤ b.toNat ∧ b.toNat ≤ 239 :=
  forall_octet (by decide +kernel)

theorem and_c0_eq_80_iff : ∀ b : UInt8, b &&& 0xc0 = 0x80 ↔ 128 ≤ b.toNat ∧ b.toNat ≤ 191 :=
  forall_octet (by decide +kernel)

theorem and_c0_eq_c0_iff : ∀ b : UInt8, b &&& 0xc0 = 0xc0 ↔ 192 ≤ b.toNat :=
  forall_octet (by decide +kernel)

/-! ### Unicast and wildcard classes, and multicast as a whole -/

theorem getElem_eq_zero {n i count : Nat} {octets : Octets n}
    (zero : ∀ b ∈ octets.toList.take count, b = 0) (within : i < n) (early : i < count) :
    octets[i] = 0 := by
  have place : i < octets.toList.length := by rwa [Vector.length_toList]
  have present : octets.toList[i] ∈ octets.toList.take count :=
    List.mem_take_iff_getElem.mpr ⟨i, by omega, rfl⟩
  exact zero _ present

theorem leadsV4_of_isOf {octets : Octets 4} (holds : (Address.v4 octets).isOf c = true) :
    c.LeadsV4 (octets.get 0) := by
  show c.LeadsV4 octets[0]
  cases c with
  | anyLocal =>
    simp only [isOf, isAnyLocal, List.all_eq_true, decide_eq_true_eq] at holds
    rw [Class.LeadsV4, holds octets[0] (by simp)]
    rfl
  | loopback =>
    have first : octets[0] = 127 := by simpa [isOf, isLoopback] using holds
    rw [Class.LeadsV4, first]
    rfl
  | linkLocal =>
    have first : octets[0] = 169 ∧ octets[1] = 254 := by simpa [isOf, isLinkLocal] using holds
    rw [Class.LeadsV4, first.1]
    rfl
  | siteLocal =>
    simp only [isOf, isSiteLocal, Bool.or_eq_true, Bool.and_eq_true, decide_eq_true_eq] at holds
    rw [Class.LeadsV4]
    rcases holds with (first | ⟨first, -⟩) | ⟨first, -⟩
    · exact .inl (by rw [first]; rfl)
    · exact .inr (.inl (by rw [first]; rfl))
    · exact .inr (.inr (by rw [first]; rfl))
  | multicast =>
    have first : octets[0] &&& 0xf0 = 0xe0 := by simpa [isOf, isMulticast] using holds
    exact (and_f0_eq_e0_iff _).mp first

theorem leadsV6_of_isOf {octets : Octets 16} (holds : (Address.v6 octets scope).isOf c = true) :
    c.LeadsV6 (octets.get 0) (octets.get 1) (octets.get 15) := by
  show c.LeadsV6 octets[0] octets[1] octets[15]
  cases c with
  | anyLocal =>
    simp only [isOf, isAnyLocal, List.all_eq_true, decide_eq_true_eq] at holds
    rw [Class.LeadsV6, holds octets[0] (by simp), holds octets[15] (by simp)]
    exact ⟨rfl, rfl⟩
  | loopback =>
    simp only [isOf, isLoopback, Bool.and_eq_true, List.all_eq_true, decide_eq_true_eq] at holds
    have first : octets[0] = 0 := getElem_eq_zero holds.1 (by decide) (by decide)
    rw [Class.LeadsV6, first, holds.2]
    exact ⟨rfl, rfl⟩
  | linkLocal =>
    simp only [isOf, isLinkLocal, Bool.and_eq_true, decide_eq_true_eq] at holds
    rw [Class.LeadsV6, holds.1]
    exact ⟨rfl, (and_c0_eq_80_iff _).mp holds.2⟩
  | siteLocal =>
    simp only [isOf, isSiteLocal, Bool.and_eq_true, decide_eq_true_eq] at holds
    rw [Class.LeadsV6, holds.1]
    exact ⟨rfl, (and_c0_eq_c0_iff _).mp holds.2⟩
  | multicast =>
    have first : octets[0] = 0xff := by simpa [isOf, isMulticast] using holds
    rw [Class.LeadsV6, first]
    rfl

theorem not_isOf_unspecified (c : Class) : unspecified.isOf c = false := by
  cases c <;> rfl

theorem class_unique (first : a.isOf c = true) (second : a.isOf d = true) : c = d := by
  cases a with
  | unspecified =>
    rw [not_isOf_unspecified] at first
    cases first
  | v4 octets => exact (leadsV4_of_isOf first).unique (leadsV4_of_isOf second)
  | v6 octets scope => exact (leadsV6_of_isOf first).unique (leadsV6_of_isOf second)

theorem isOf_unscoped (c : Class) (a : Address) : a.unscoped.isOf c = a.isOf c := by
  cases c <;> cases a <;> rfl

/-! ### IPv4-compatible addresses -/

theorem bigEndian_drop (octets : Octets 16) :
    Octets.bigEndian (octets.toList.drop 12) =
      (octets.get 12).toNat * 256 ^ 3 + ((octets.get 13).toNat * 256 ^ 2 +
        ((octets.get 14).toNat * 256 + (octets.get 15).toNat)) := by
  have places (i : Nat) (within : i < 16) :
      octets.toList.drop i = octets.get ⟨i, within⟩ :: octets.toList.drop (i + 1) :=
    List.drop_eq_getElem_cons (by rwa [Vector.length_toList])
  have none : octets.toList.drop 16 = [] := List.drop_of_length_le (by simp)
  rw [places 12 (by decide), places 13 (by decide), places 14 (by decide), places 15 (by decide),
    none]
  simp [Octets.bigEndian]

/-- Zeros up to the last octet, which is zero or one: too small a number for IPv4. -/
theorem not_compatible_of_small {octets : Octets 16} (zero : ∀ b ∈ octets.toList.take 15, b = 0)
    (small : (octets.get 15).toNat ≤ 1) : isV4CompatibleForm octets = false := by
  apply Bool.eq_false_iff.mpr
  intro form
  have value := ((isV4CompatibleForm_iff octets).mp form).2
  have twelfth : octets.get 12 = 0 := getElem_eq_zero zero (by decide) (by decide)
  have thirteenth : octets.get 13 = 0 := getElem_eq_zero zero (by decide) (by decide)
  have fourteenth : octets.get 14 = 0 := getElem_eq_zero zero (by decide) (by decide)
  rw [bigEndian_drop, twelfth, thirteenth, fourteenth, UInt8.toNat_zero] at value
  omega

theorem not_isOf_of_compatible {octets : Octets 16} (form : isV4CompatibleForm octets = true)
    (c : Class) : (Address.v6 octets scope).isOf c = false := by
  apply Bool.eq_false_iff.mpr
  intro holds
  have first : octets.get 0 = 0 :=
    getElem_eq_zero ((isV4CompatibleForm_iff octets).mp form).1 (by decide) (by decide)
  have leads := leadsV6_of_isOf holds
  rw [first] at leads
  cases c with
  | anyLocal =>
    simp only [isOf, isAnyLocal, List.all_eq_true, decide_eq_true_eq] at holds
    have refused := not_compatible_of_small (fun b member => holds b (List.mem_of_mem_take member))
      (Nat.le_trans (Nat.le_of_eq leads.2) (Nat.zero_le 1))
    rw [form] at refused
    cases refused
  | loopback =>
    simp only [isOf, isLoopback, Bool.and_eq_true, List.all_eq_true, decide_eq_true_eq] at holds
    have refused := not_compatible_of_small holds.1 (Nat.le_of_eq leads.2)
    rw [form] at refused
    cases refused
  | linkLocal => cases leads.1
  | siteLocal => cases leads.1
  | multicast => cases leads

/-! ### The reaches of multicast addresses -/

/-- The first three octets of the IPv4 multicast addresses with a reach. -/
def Reach.LeadsV4 (first second third : Nat) : Reach → Prop
  | .global => 224 ≤ first ∧ first ≤ 238 ∧ ¬ (first = 224 ∧ second = 0 ∧ third = 0)
  | .node => False
  | .link => first = 224 ∧ second = 0 ∧ third = 0
  | .site => first = 239 ∧ second = 255
  | .organization => first = 239 ∧ 192 ≤ second ∧ second ≤ 195

theorem Reach.LeadsV4.unique {first second third : Nat} (leads : reach.LeadsV4 first second third)
    (also : other.LeadsV4 first second third) : reach = other := by
  cases reach <;> cases other <;> simp only [LeadsV4] at leads also <;> first | rfl | omega

theorem Reach.LeadsV4.multicast {first second third : Nat}
    (leads : reach.LeadsV4 first second third) : 224 ≤ first ∧ first ≤ 239 := by
  cases reach <;> simp only [LeadsV4] at leads <;> omega

theorem Reach.leadsV4_of_holds {octets : Octets 4} (holds : reach.holdsV4 octets = true) :
    reach.LeadsV4 (octets.get 0).toNat (octets.get 1).toNat (octets.get 2).toNat := by
  show reach.LeadsV4 octets[0].toNat octets[1].toNat octets[2].toNat
  cases reach with
  | global =>
    have octet : (224 ≤ octets[0].toNat ∧ octets[0].toNat ≤ 238) ∧
        ((¬ octets[0].toNat = 224 ∨ ¬ octets[1].toNat = 0) ∨ ¬ octets[2].toNat = 0) := by
      simpa [holdsV4, ← UInt8.toNat_inj, UInt8.le_iff_toNat_le] using holds
    exact ⟨octet.1.1, octet.1.2, by omega⟩
  | node => cases holds
  | link => simpa [holdsV4, LeadsV4, ← UInt8.toNat_inj, and_assoc] using holds
  | site => simpa [holdsV4, LeadsV4, ← UInt8.toNat_inj] using holds
  | organization =>
    simpa [holdsV4, LeadsV4, ← UInt8.toNat_inj, UInt8.le_iff_toNat_le, and_assoc] using holds

theorem Reach.nibble_inj (same : reach.nibble = other.nibble) : reach = other := by
  cases reach <;> cases other <;> first | rfl | cases same

theorem isMulticastOf_v6_iff {octets : Octets 16} :
    (Address.v6 octets scope).isMulticastOf reach = true ↔
      octets.get 0 = 0xff ∧ octets.get 1 &&& 0x0f = reach.nibble := by
  rw [isMulticastOf, Bool.and_eq_true, decide_eq_true_eq, decide_eq_true_eq]
  exact Iff.rfl

theorem multicast_of_reach (holds : a.isMulticastOf reach = true) : a.isMulticast = true := by
  cases a with
  | unspecified => cases holds
  | v4 octets =>
    have leads := (Reach.leadsV4_of_holds holds).multicast
    exact decide_eq_true ((and_f0_eq_e0_iff _).mpr leads)
  | v6 octets scope => exact decide_eq_true (isMulticastOf_v6_iff.mp holds).1

theorem reach_unique (first : a.isMulticastOf reach = true) (second : a.isMulticastOf other = true) :
    reach = other := by
  cases a with
  | unspecified => cases first
  | v4 octets => exact (Reach.leadsV4_of_holds first).unique (Reach.leadsV4_of_holds second)
  | v6 octets scope =>
    have nibble := (isMulticastOf_v6_iff.mp first).2
    rw [(isMulticastOf_v6_iff.mp second).2] at nibble
    exact (Reach.nibble_inj nibble).symm

theorem isMulticastOf_unscoped (reach : Reach) (a : Address) :
    a.unscoped.isMulticastOf reach = a.isMulticastOf reach := by
  cases a <;> rfl

/-- An address is in one class at most and has one reach at most, only multicast addresses have a
reach, and an IPv6 address that IPv4 can express is in no class. An undefined address is in none and
has none, and the scope has no say in any of this. -/
theorem classes_apart (a : Address) :
    (∀ c d, a.isOf c = true → a.isOf d = true → c = d) ∧
    (∀ reach, a.isMulticastOf reach = true → a.isMulticast = true) ∧
    (∀ reach other, a.isMulticastOf reach = true → a.isMulticastOf other = true →
      reach = other) ∧
    (a.family = .ipv6 → a.isV4Compatible = true → ∀ c, a.isOf c = false) ∧
    (a.family = .unspecified →
      (∀ c, a.isOf c = false) ∧ ∀ reach, a.isMulticastOf reach = false) ∧
    (∀ c, a.unscoped.isOf c = a.isOf c) ∧
    ∀ reach, a.unscoped.isMulticastOf reach = a.isMulticastOf reach := by
  refine ⟨fun _ _ => class_unique, fun _ => multicast_of_reach, fun _ _ => reach_unique, ?_, ?_,
    fun c => isOf_unscoped c a, fun reach => isMulticastOf_unscoped reach a⟩
  · intro family form
    cases a with
    | unspecified => cases family
    | v4 octets => cases family
    | v6 octets scope => exact not_isOf_of_compatible form
  · intro family
    rw [family_eq_unspecified_iff.mp family]
    exact ⟨not_isOf_unspecified, fun _ => rfl⟩

/-- The multicast address of all nodes on a link. -/
def allNodes : Address :=
  .v6 #v[0xff, 2, 0, 0, 0, 0, 0, 0, 0, 0, 0, 0, 0, 0, 0, 1] 3

/-- The compatible form of 10.0.0.7. -/
def compatibleTen : Address :=
  .v6 #v[0, 0, 0, 0, 0, 0, 0, 0, 0, 0, 0, 0, 10, 0, 0, 7] 0

theorem classes_apart_allNodes :
    allNodes.isOf .multicast = true ∧ allNodes.isMulticastOf .link = true ∧
    (∀ c, allNodes.isOf c = true → c = .multicast) ∧
    (∀ reach, allNodes.isMulticastOf reach = true → reach = .link) ∧
    compatibleTen.isV4Compatible = true ∧ (∀ c, compatibleTen.isOf c = false) ∧
    ∀ c, unspecified.isOf c = false := by
  have link : allNodes.isMulticastOf .link = true := by decide
  have compatible : compatibleTen.isV4Compatible = true := by decide
  obtain ⟨classes, multicast, reaches, -⟩ := classes_apart allNodes
  obtain ⟨-, -, -, none, -⟩ := classes_apart compatibleTen
  obtain ⟨-, -, -, -, undefined, -⟩ := classes_apart unspecified
  have whole := multicast .link link
  exact ⟨whole, link, fun c holds => classes c .multicast holds whole,
    fun reach holds => reaches reach .link holds link, compatible, none rfl compatible,
    (undefined rfl).1⟩

end HostNet.Address
