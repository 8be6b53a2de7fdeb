import HostNet.Binary.Value
import HostNet.Proofs.Address.Conversions
import HostNet.Proofs.Binary.Delimited

/-!
The binary forms of the library's values. Each value is decoded from its octets with anything after
them, and no value from octets that break off early.
-/

namespace HostNet

open Binary

namespace Address

theorem length_octets_le (a : Address) : a.octets.length ≤ 16 := by
  cases a with
  | unspecified => exact Nat.zero_le 16
  | v4 octets => simp [Address.octets]
  | v6 octets => simp [Address.octets]

theorem delimited (a : Address) : Delimited binaryReader a.binary a := by
  have countable : a.octets.length < 2 ^ 64 := Nat.lt_of_le_of_lt a.length_octets_le (by decide)
  have judged : Delimited (if a.octets.isEmpty then Pure.pure unspecified
      else StateT.lift (DecodeError.ofAddress (ofMemory a.octets (UInt32.ofNat a.scope.toNat))))
      [] a := by
    split
    · rename_i empty
      cases a with
      | unspecified => exact .pure unspecified
      | v4 octets => simp [Address.octets] at empty
      | v6 octets => simp [Address.octets] at empty
    · rename_i nonempty
      have known : a.family ≠ .unspecified := by
        intro unknown
        rw [family_eq_unspecified_iff.mp unknown] at nonempty
        exact nonempty rfl
      rw [UInt32.ofNat_toNat, ofMemory_octets_iff.mpr known]
      exact .pure a
  have whole : Delimited binaryReader
      (encodeList (fun b => [b]) a.octets ++ (encodeNat 4 a.scope.toNat ++ [])) a :=
    (Delimited.octetSequence countable).bind ((Delimited.number a.scope.toNat_lt).bind judged)
  rw [List.append_nil] at whole
  exact whole

end Address

namespace Endpoint

theorem delimited (e : Endpoint) : Delimited binaryReader e.binary e := by
  have port : Delimited (Reader.number 2) (encodeNat 2 e.portNumber.toNat) e.portNumber.toNat :=
    .number e.portNumber.toNat_lt
  have whole : Delimited binaryReader e.binary ⟨e.address, UInt16.ofNat e.portNumber.toNat⟩ :=
    e.address.delimited.bind (port.map fun number => (⟨e.address, UInt16.ofNat number⟩ : Endpoint))
  rw [UInt16.ofNat_toNat] at whole
  exact whole

end Endpoint

namespace Binding

theorem delimited (b : Binding) : Delimited binaryReader b.binary b := by
  have netmask : Delimited (Reader.option Address.binaryReader)
      (encodeOption Address.binary b.netmask) b.netmask := .option fun a _ => a.delimited
  have broadcast : Delimited (Reader.option Address.binaryReader)
      (encodeOption Address.binary b.broadcast) b.broadcast := .option fun a _ => a.delimited
  have whole : Delimited binaryReader (b.unicast.binary ++
      (encodeOption Address.binary b.netmask ++ encodeOption Address.binary b.broadcast)) b :=
    b.unicast.delimited.bind (netmask.bind
      (broadcast.map fun broadcast => (⟨b.unicast, b.netmask, broadcast⟩ : Binding)))
  rw [← List.append_assoc] at whole
  exact whole

end Binding

namespace Interface

/-- Texts and lists that a number of eight octets can count. -/
structure Countable (i : Interface) : Prop where
  name : (Utf8.ofString i.name).length < 2 ^ 64
  displayName : (Utf8.ofString i.displayName).length < 2 ^ 64
  bindings : i.bindings.length < 2 ^ 64

theorem delimited {i : Interface} (countable : i.Countable) : Delimited binaryReader i.binary i := by
  have index : Delimited (Reader.number 4) (encodeNat 4 i.index.toNat) i.index.toNat :=
    .number i.index.toNat_lt
  have bindings : Delimited (Reader.sequence Binding.binaryReader)
      (encodeList Binding.binary i.bindings) i.bindings :=
    .sequence countable.bindings fun b _ => b.delimited
  have whole : Delimited binaryReader (encodeText i.name ++ (encodeText i.displayName ++
      (encodeNat 4 i.index.toNat ++ encodeList Binding.binary i.bindings)))
      ⟨i.name, i.displayName, UInt32.ofNat i.index.toNat, i.bindings⟩ :=
    (Delimited.text countable.name).bind ((Delimited.text countable.displayName).bind
      (index.bind (bindings.map fun bindings =>
        (⟨i.name, i.displayName, UInt32.ofNat i.index.toNat, bindings⟩ : Interface))))
  rw [UInt32.ofNat_toNat, ← List.append_assoc, ← List.append_assoc] at whole
  exact whole

end Interface

namespace Binary

variable {α : Type}

/-- The value is decoded from its octets whatever follows them, and none from less. -/
def DecodesExactly (reader : Reader α) (bytes : List UInt8) (a : α) : Prop :=
  (∀ rest, Reader.run reader (bytes ++ rest) = .ok a) ∧
    ∀ front, front <+: bytes → front ≠ bytes → ∃ e, Reader.run reader front = .error e

theorem Delimited.decodesExactly {reader : Reader α} {bytes : List UInt8} {a : α}
    (delimited : Delimited reader bytes a) : DecodesExactly reader bytes a := by
  constructor
  · intro rest
    rw [Reader.run, delimited.reads rest]
  · intro front leading short
    obtain ⟨missing, whole⟩ := leading
    have absent : missing ≠ [] := by
      intro none
      rw [none, List.append_nil] at whole
      exact short whole
    refine ⟨.malformed, ?_⟩
    rw [Reader.run, delimited.stops front missing absent whole]

/-- The binary forms are self-delimiting, and each is decoded as the value it was written for. -/
theorem values_decode_exactly :
    (∀ a : Address, DecodesExactly Address.binaryReader a.binary a) ∧
    (∀ e : Endpoint, DecodesExactly Endpoint.binaryReader e.binary e) ∧
    (∀ b : Binding, DecodesExactly Binding.binaryReader b.binary b) ∧
    (∀ i : Interface, i.Countable → DecodesExactly Interface.binaryReader i.binary i) ∧
    ∀ is : List Interface, is.length < 2 ^ 64 → (∀ i ∈ is, i.Countable) →
      DecodesExactly (Reader.sequence Interface.binaryReader) (encodeList Interface.binary is) is := by
  refine ⟨fun a => a.delimited.decodesExactly, fun e => e.delimited.decodesExactly,
    fun b => b.delimited.decodesExactly,
    fun i countable => (Interface.delimited countable).decodesExactly, ?_⟩
  intro is few countable
  have each : ∀ i ∈ is, Delimited Interface.binaryReader i.binary i :=
    fun i member => Interface.delimited (countable i member)
  exact (Delimited.sequence few each).decodesExactly

/-- An interface with a scoped address and an unspecified netmask. -/
def linkLocal : Interface :=
  ⟨"lo\x00\"\\", "é 网", 7,
    [⟨.v6 #v[0xfe, 0x80, 0, 0, 0, 0, 0, 0, 0, 0, 0, 0, 0, 0, 0, 1] 3, some .unspecified, none⟩,
      ⟨.v4 #v[127, 0, 0, 1], none, some .unspecified⟩]⟩

theorem values_decode_exactly_linkLocal :
    linkLocal.Countable ∧
    DecodesExactly Interface.binaryReader linkLocal.binary linkLocal ∧
    DecodesExactly (Reader.sequence Interface.binaryReader)
      (encodeList Interface.binary [linkLocal, linkLocal]) [linkLocal, linkLocal] := by
  have countable : linkLocal.Countable := ⟨by decide, by decide, by decide⟩
  have each : ∀ i ∈ [linkLocal, linkLocal], i.Countable := by
    intro i member
    simp only [List.mem_cons, List.not_mem_nil, or_false, or_self] at member
    rw [member]
    exact countable
  obtain ⟨-, -, -, alone, listed⟩ := values_decode_exactly
  exact ⟨countable, alone linkLocal countable, listed [linkLocal, linkLocal] (by decide) each⟩

end Binary

end HostNet
