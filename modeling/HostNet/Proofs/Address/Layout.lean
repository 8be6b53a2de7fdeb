import Mathlib.Algebra.Group.Nat.Defs
import HostNet.Address.Basic

/-!
The flat form of addresses, and back. A flat value is canonical exactly when it is the flat form of
some address; among canonical values the mark follows from what equality looks at.
-/

namespace HostNet

namespace Octets

/-- The number that octets are in network order. -/
def bigEndian : List UInt8 → Nat
  | [] => 0
  | b :: rest => b.toNat * 256 ^ rest.length + bigEndian rest

theorem foldl_eq_bigEndian (octets : List UInt8) (value : Nat) :
    octets.foldl (fun value b => value * 256 + b.toNat) value =
      value * 256 ^ octets.length + bigEndian octets := by
  induction octets generalizing value with
  | nil => simp [bigEndian]
  | cons b rest ih =>
    rw [List.foldl_cons, ih, bigEndian, List.length_cons, Nat.pow_succ', Nat.add_mul,
      Nat.mul_assoc, Nat.add_assoc]

theorem toList_lastFour_eq_drop (octets : Octets 16) :
    octets.lastFour.toList = octets.toList.drop 12 := by
  rw [lastFour, Vector.toList_cast, Vector.toList_drop]

end Octets

namespace Address

variable {a b : Address}

theorem isV4CompatibleForm_iff (octets : Octets 16) :
    isV4CompatibleForm octets = true ↔
      (∀ b ∈ octets.toList.take 12, b = 0) ∧
        1 < Octets.bigEndian (octets.toList.drop 12) := by
  rw [isV4CompatibleForm, Octets.foldl_eq_bigEndian, Nat.zero_mul, Nat.zero_add]
  simp only [Bool.and_eq_true, List.all_eq_true, decide_eq_true_eq]

theorem family_eq_unspecified_iff : a.family = .unspecified ↔ a = unspecified := by
  cases a <;> simp [family]

theorem length_octets (a : Address) :
    a.octets.length = match a.family with
      | .unspecified => 0
      | .ipv4 => 4
      | .ipv6 => 16 := by
  cases a <;> simp [octets, family]

theorem family_eq_of_octets (same : a.octets = b.octets) : a.family = b.family := by
  have lengths := congrArg List.length same
  rw [length_octets, length_octets] at lengths
  revert lengths
  cases a.family <;> cases b.family <;> decide

theorem eq_of_octets (same : a.octets = b.octets) (scope : a.scope = b.scope) : a = b := by
  have family := family_eq_of_octets same
  cases a <;> cases b <;> simp_all [octets, Address.family, Address.scope, Vector.toList_inj]

end Address

namespace Layout

variable {l m : Layout}

/-- The address that a flat value is read as: its octets are the last four of the buffer or all of
them, as the family says. -/
def address (l : Layout) : Address :=
  match l.family with
  | .unspecified => .unspecified
  | .ipv4 => .v4 l.buffer.lastFour
  | .ipv6 => .v6 l.buffer l.scope

def octets (l : Layout) : List UInt8 :=
  l.address.octets

/-- What is hashed of a flat value. -/
def identity (l : Layout) : Address.Identity :=
  (l.buffer, l.family, l.scope)

theorem same_iff_identity : l.Same m ↔ l.identity = m.identity := by
  simp [Same, identity]

theorem toList_buffer_v4 (octets : Octets 4) :
    (Address.v4 octets).buffer.toList = List.replicate 12 0 ++ octets.toList := by
  change ((Vector.replicate 12 0 : Octets 12) ++ octets).toList = _
  rw [Vector.toList_append, Vector.toList_replicate]

theorem address_layout (a : Address) : a.layout.address = a := by
  cases a with
  | unspecified => rfl
  | v4 octets =>
    change Address.v4 (Address.v4 octets).buffer.lastFour = .v4 octets
    congr 1
    apply Vector.toList_inj.mp
    rw [Octets.toList_lastFour_eq_drop, toList_buffer_v4, List.drop_left' (by simp)]
  | v6 octets scope => rfl

theorem canonical_layout (a : Address) : a.layout.Canonical := by
  cases a with
  | unspecified =>
    refine ⟨?_, rfl, rfl⟩
    intro b member
    exact List.eq_of_mem_replicate (Vector.toList_replicate ▸ member)
  | v4 octets =>
    refine ⟨?_, rfl, rfl⟩
    change ∀ b ∈ (Address.v4 octets).buffer.toList.take 12, b = 0
    rw [toList_buffer_v4, List.take_left' (by simp)]
    intro b member
    exact List.eq_of_mem_replicate member
  | v6 octets scope => rfl

theorem layout_address (canonical : l.Canonical) : l.address.layout = l := by
  obtain ⟨buffer, family, scope, mark⟩ := l
  cases family with
  | unspecified =>
    obtain ⟨zero, rfl, rfl⟩ := canonical
    have same : (Vector.replicate 16 0 : Octets 16) = buffer := by
      apply Vector.toList_inj.mp
      rw [Vector.toList_replicate]
      exact (List.eq_replicate_iff.mpr ⟨by simp, zero⟩).symm
    rw [← same]
    rfl
  | ipv4 =>
    obtain ⟨zero, rfl, rfl⟩ := canonical
    have same : (Address.v4 buffer.lastFour).buffer = buffer := by
      have front : buffer.toList.take 12 = List.replicate 12 0 :=
        List.eq_replicate_iff.mpr ⟨by simp, zero⟩
      apply Vector.toList_inj.mp
      rw [toList_buffer_v4, Octets.toList_lastFour_eq_drop, ← front, List.take_append_drop]
    change Layout.mk (Address.v4 buffer.lastFour).buffer .ipv4 0 true = _
    rw [same]
  | ipv6 =>
    change mark = _ at canonical
    rw [canonical]
    rfl

theorem canonical_iff : l.Canonical ↔ ∃ a : Address, a.layout = l := by
  constructor
  · intro canonical
    exact ⟨l.address, layout_address canonical⟩
  · rintro ⟨a, rfl⟩
    exact canonical_layout a

/-- Equality leaves the mark out, but among canonical values nothing is left open by that. -/
theorem Canonical.eq_of_same (first : l.Canonical) (second : m.Canonical) (same : l.Same m) :
    l = m := by
  obtain ⟨buffer, family, scope⟩ := same
  have address : l.address = m.address := by
    simp only [Layout.address, buffer, family, scope]
  rw [← layout_address first, address, layout_address second]

theorem Canonical.same_iff_octets (first : l.Canonical) (second : m.Canonical) :
    l.Same m ↔ l.octets = m.octets ∧ l.scope = m.scope := by
  constructor
  · intro same
    rw [first.eq_of_same second same]
    exact ⟨rfl, rfl⟩
  · rintro ⟨octets, scope⟩
    obtain ⟨a, rfl⟩ := canonical_iff.mp first
    obtain ⟨b, rfl⟩ := canonical_iff.mp second
    rw [Layout.octets, Layout.octets, address_layout, address_layout] at octets
    rw [Address.eq_of_octets octets scope]
    exact ⟨rfl, rfl, rfl⟩

end Layout

end HostNet
