import Mathlib.Algebra.Group.Nat.Defs
import HostNet.Binary.Basic
import HostNet.Proofs.Sequencing
import HostNet.Proofs.Text.Utf8

/-!
Octets that say themselves where they end. A reader takes just them off the front of any input, and
refuses every input that breaks off before their end. What is put together from such parts is again
of this kind.
-/

namespace HostNet.Binary

variable {α β : Type} {reader : Reader α} {bytes more : List UInt8} {a : α}

structure Delimited (reader : Reader α) (bytes : List UInt8) (a : α) : Prop where
  reads : ∀ rest, reader (bytes ++ rest) = .ok (a, rest)
  stops : ∀ front missing, missing ≠ [] → front ++ missing = bytes →
    reader front = .error .malformed

namespace Delimited

theorem pure (a : α) : Delimited (Pure.pure a) [] a where
  reads _ := rfl
  stops _ _ absent whole := absurd (List.append_eq_nil_iff.mp whole).2 absent

/-- An input that breaks off in the second part is the whole first part and some of the second. -/
theorem bind {next : α → Reader β} {b : β} (first : Delimited reader bytes a)
    (second : Delimited (next a) more b) : Delimited (reader >>= next) (bytes ++ more) b where
  reads rest := by
    rw [List.append_assoc, Sequencing.bind_of_ok (first.reads (more ++ rest))]
    exact second.reads rest
  stops front missing absent whole := by
    rcases List.append_eq_append_iff.mp whole with ⟨lost, inside, rfl⟩ | ⟨part, rfl, inside⟩
    · by_cases none : lost = []
      · subst none
        rw [List.append_nil] at inside
        have read := first.reads []
        rw [List.append_nil, inside] at read
        rw [Sequencing.bind_of_ok read]
        exact second.stops [] more absent rfl
      · exact Sequencing.bind_of_error (first.stops front lost none inside.symm)
    · rw [Sequencing.bind_of_ok (first.reads part)]
      exact second.stops part missing absent inside.symm

theorem map (f : α → β) (first : Delimited reader bytes a) :
    Delimited (f <$> reader) bytes (f a) := by
  have mapped : Delimited (reader >>= fun a => Pure.pure (f a)) (bytes ++ []) (f a) :=
    first.bind (.pure (f a))
  rw [List.append_nil] at mapped
  exact mapped

theorem octets (bytes : List UInt8) : Delimited (Reader.octets bytes.length) bytes bytes where
  reads rest := by
    have enough : bytes.length ≤ (bytes ++ rest).length := by
      rw [List.length_append]
      omega
    rw [Reader.octets, if_pos enough, List.take_left, List.drop_left]
  stops front missing absent whole := by
    have short : ¬ bytes.length ≤ front.length := by
      have lost := List.length_pos_iff.mpr absent
      rw [← whole, List.length_append]
      omega
    rw [Reader.octets, if_neg short]

end Delimited

theorem length_encodeNat (width n : Nat) : (encodeNat width n).length = width := by
  induction width generalizing n with
  | zero => rfl
  | succ width ih => rw [encodeNat, List.length_cons, ih]

theorem decodeNat_encodeNat {width n : Nat} (bound : n < 256 ^ width) :
    decodeNat (encodeNat width n) = n := by
  induction width generalizing n with
  | zero =>
    rw [Nat.pow_zero] at bound
    have zero : n = 0 := by omega
    rw [zero]
    rfl
  | succ width ih =>
    rw [Nat.pow_succ] at bound
    have quotient : n / 256 < 256 ^ width := by omega
    rw [encodeNat, decodeNat, ih quotient, UInt8.toNat_ofNat']
    omega

namespace Delimited

theorem number {width n : Nat} (bound : n < 256 ^ width) :
    Delimited (Reader.number width) (encodeNat width n) n := by
  have taken := octets (encodeNat width n)
  rw [length_encodeNat] at taken
  have decoded := taken.map decodeNat
  rw [decodeNat_encodeNat bound] at decoded
  exact decoded

theorem repeated {item : Reader α} {encode : α → List UInt8} {items : List α}
    (each : ∀ a ∈ items, Delimited item (encode a) a) :
    Delimited (Reader.repeated item items.length) (items.flatMap encode) items := by
  induction items with
  | nil => exact .pure []
  | cons a others ih =>
    have first := each a List.mem_cons_self
    have later := ih fun b member => each b (List.mem_cons_of_mem _ member)
    exact first.bind (later.map (a :: ·))

theorem sequence {item : Reader α} {encode : α → List UInt8} {items : List α}
    (countable : items.length < 2 ^ 64) (each : ∀ a ∈ items, Delimited item (encode a) a) :
    Delimited (Reader.sequence item) (encodeList encode items) items :=
  (number countable).bind (repeated each)

theorem octetSequence {bytes : List UInt8} (countable : bytes.length < 2 ^ 64) :
    Delimited Reader.octetSequence (encodeList (fun b => [b]) bytes) bytes := by
  have same : bytes.flatMap (fun b => [b]) = bytes := List.flatMap_singleton' bytes
  rw [encodeList, same]
  exact (number countable).bind (octets bytes)

theorem option {item : Reader α} {encode : α → List UInt8} {value : Option α}
    (each : ∀ a, value = some a → Delimited item (encode a) a) :
    Delimited (Reader.option item) (encodeOption encode value) value := by
  have tag : ∀ n, n < 256 ^ 1 → Delimited (Reader.number 1) [UInt8.ofNat n] n :=
    fun n small => number small
  unfold Reader.option
  cases value with
  | none => exact (tag 0 (by decide)).bind (.pure none)
  | some a => exact (tag 1 (by decide)).bind ((each a rfl).map some)

end Delimited

theorem Delimited.text {s : String} (countable : (Utf8.ofString s).length < 2 ^ 64) :
    Delimited Reader.text (encodeText s) s := by
  have whole : Delimited Reader.text (encodeText s ++ []) s := by
    unfold Reader.text
    refine (octetSequence countable).bind ?_
    rw [Utf8.decode?_ofString]
    exact .pure s
  rw [List.append_nil] at whole
  exact whole

end HostNet.Binary
