import HostNet.Proofs.Binary.RoundTrip

/-!
What holds of all that a binary reader accepts. A text or list is counted by a number of eight
octets, so none is longer than such a number can say, and the binary forms are read as values that
have such forms themselves.
-/

namespace HostNet

namespace Binary

variable {α β : Type} {reader : Reader α} {P : α → Prop}

def Ensures (reader : Reader α) (P : α → Prop) : Prop :=
  ∀ input a rest, reader input = .ok (a, rest) → P a

namespace Ensures

theorem pure {a : α} (holds : P a) : Ensures (Pure.pure a) P := by
  intro input b rest read
  cases read
  exact holds

theorem malformed : Ensures Reader.malformed P := nofun

theorem trivial (reader : Reader α) : Ensures reader fun _ => True :=
  fun _ _ _ _ => True.intro

theorem bind {next : α → Reader β} {Q : β → Prop} (first : Ensures reader P)
    (second : ∀ a, P a → Ensures (next a) Q) : Ensures (reader >>= next) Q := by
  intro input b rest read
  cases parted : reader input with
  | error e =>
    rw [Sequencing.bind_of_error parted] at read
    cases read
  | ok taken =>
    obtain ⟨a, middle⟩ := taken
    rw [Sequencing.bind_of_ok parted] at read
    exact second a (first input a middle parted) middle b rest read

theorem octets (count : Nat) : Ensures (Reader.octets count) (·.length = count) := by
  intro input bytes rest read
  rw [Reader.octets] at read
  split at read
  · rename_i enough
    cases read
    rw [List.length_take, Nat.min_eq_left enough]
  · cases read

theorem decodeNat_lt (bytes : List UInt8) : decodeNat bytes < 256 ^ bytes.length := by
  induction bytes with
  | nil => exact Nat.one_pos
  | cons b bytes ih =>
    have small := b.toNat_lt
    rw [decodeNat, List.length_cons, Nat.pow_succ]
    omega

theorem number (width : Nat) : Ensures (Reader.number width) (· < 256 ^ width) := by
  refine (octets width).bind fun bytes length => .pure ?_
  exact length ▸ decodeNat_lt bytes

theorem octetSequence : Ensures Reader.octetSequence (·.length < 2 ^ 64) := by
  refine (number 8).bind fun count bound input bytes rest read => ?_
  rw [octets count input bytes rest read]
  exact bound

theorem text : Ensures Reader.text fun s => (Utf8.ofString s).length < 2 ^ 64 := by
  refine octetSequence.bind fun bytes bound => ?_
  split
  · rename_i s decoded
    rw [← Utf8.ofString_of_decode? decoded] at bound
    exact .pure bound
  · exact .malformed

theorem repeated (each : Ensures reader P) (count : Nat) :
    Ensures (Reader.repeated reader count) fun items =>
      items.length = count ∧ ∀ a ∈ items, P a := by
  induction count with
  | zero => exact .pure ⟨rfl, nofun⟩
  | succ count ih =>
    refine each.bind fun a holds => ih.bind fun others later => .pure ⟨?_, ?_⟩
    · rw [List.length_cons, later.1]
    · exact List.forall_mem_cons.mpr ⟨holds, later.2⟩

theorem sequence (each : Ensures reader P) :
    Ensures (Reader.sequence reader) fun items => items.length < 2 ^ 64 ∧ ∀ a ∈ items, P a := by
  refine (number 8).bind fun count bound input items rest read => ?_
  obtain ⟨length, all⟩ := each.repeated count input items rest read
  exact ⟨length ▸ bound, all⟩

theorem of_run (ensures : Ensures reader P) {input : List UInt8} {a : α}
    (accepted : Reader.run reader input = .ok a) : P a := by
  rw [Reader.run] at accepted
  split at accepted
  · cases accepted
  · rename_i b rest read
    cases accepted
    exact ensures input a rest read

end Ensures

end Binary

namespace Interface

open Binary

variable {i : Interface} {is : List Interface}

theorem ensures_countable : Ensures binaryReader Countable := by
  refine Ensures.text.bind fun name named => ?_
  refine Ensures.text.bind fun displayName displayed => ?_
  refine (Ensures.trivial _).bind fun index _ => ?_
  refine (Ensures.trivial Binding.binaryReader).sequence.bind fun bindings counted => .pure ?_
  exact ⟨named, displayed, counted.1⟩

/-- The interfaces that some octets are decoded as are those that can be counted. -/
theorem exists_octets_iff :
    (∃ octets, Binary.Reader.run binaryReader octets = .ok i) ↔ i.Countable := by
  constructor
  · rintro ⟨octets, accepted⟩
    exact ensures_countable.of_run accepted
  · intro countable
    exact ⟨_, (delimited countable).decodesExactly.1 []⟩

theorem exists_octets_list_iff :
    (∃ octets, Binary.Reader.run (Reader.sequence binaryReader) octets = .ok is) ↔
      is.length < 2 ^ 64 ∧ ∀ i ∈ is, i.Countable := by
  constructor
  · rintro ⟨octets, accepted⟩
    exact ensures_countable.sequence.of_run accepted
  · rintro ⟨few, countable⟩
    have whole : Delimited (Reader.sequence binaryReader) (encodeList binary is) is :=
      .sequence few fun i member => delimited (countable i member)
    exact ⟨_, whole.decodesExactly.1 []⟩

end Interface

end HostNet
