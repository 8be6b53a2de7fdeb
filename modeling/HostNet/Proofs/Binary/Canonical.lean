import HostNet.Proofs.Address.Grammar
import HostNet.Proofs.Binary.Bounds

/-!
The binary forms are canonical but for one thing. Of what a reader accepts, the value that is read
tells every octet again, except a scope index that stands behind an address of another family than
IPv6: it is dropped, and written as zero.
-/

namespace HostNet

namespace Binary

variable {α β : Type} {reader : Reader α}

/-- What the reader takes off the front of an input stands in relation `P` to what it reads. -/
def Takes (reader : Reader α) (P : List UInt8 → α → Prop) : Prop :=
  ∀ input a rest, reader input = .ok (a, rest) → ∃ consumed, input = consumed ++ rest ∧ P consumed a

namespace Takes

variable {P P' : List UInt8 → α → Prop} {Q : List UInt8 → β → Prop}

theorem pure {a : α} (holds : P [] a) : Takes (Pure.pure a) P := by
  intro input b rest read
  cases read
  exact ⟨[], rfl, holds⟩

theorem malformed : Takes Reader.malformed P := nofun

theorem bind {next : α → Reader β} (first : Takes reader P)
    (second : ∀ a front, P front a → Takes (next a) fun back b => Q (front ++ back) b) :
    Takes (reader >>= next) Q := by
  intro input b rest read
  cases parted : reader input with
  | error e =>
    rw [Sequencing.bind_of_error parted] at read
    cases read
  | ok taken =>
    obtain ⟨a, middle⟩ := taken
    rw [Sequencing.bind_of_ok parted] at read
    obtain ⟨front, rfl, holds⟩ := first input a middle parted
    obtain ⟨back, rfl, holds⟩ := second a front holds middle b rest read
    exact ⟨front ++ back, (List.append_assoc front back rest).symm, holds⟩

theorem mono (takes : Takes reader P) (weaker : ∀ consumed a, P consumed a → P' consumed a) :
    Takes reader P' := by
  intro input a rest read
  obtain ⟨consumed, parts, holds⟩ := takes input a rest read
  exact ⟨consumed, parts, weaker consumed a holds⟩

theorem octets (count : Nat) :
    Takes (Reader.octets count) fun consumed bytes => consumed = bytes ∧ bytes.length = count := by
  intro input bytes rest read
  have length := Ensures.octets count input bytes rest read
  rw [Reader.octets] at read
  split at read
  · cases read
    exact ⟨_, (List.take_append_drop count input).symm, rfl, length⟩
  · cases read

end Takes

theorem encodeNat_decodeNat (bytes : List UInt8) :
    encodeNat bytes.length (decodeNat bytes) = bytes := by
  induction bytes with
  | nil => rfl
  | cons b bytes ih =>
    have small := b.toNat_lt
    have low : UInt8.ofNat (b.toNat + 256 * decodeNat bytes) = b := by
      apply UInt8.toNat_inj.mp
      rw [UInt8.toNat_ofNat']
      omega
    have high : (b.toNat + 256 * decodeNat bytes) / 256 = decodeNat bytes := by omega
    rw [List.length_cons, decodeNat, encodeNat, low, high, ih]

namespace Takes

theorem number (width : Nat) :
    Takes (Reader.number width) fun consumed n =>
      consumed = encodeNat width n ∧ n < 256 ^ width := by
  refine (octets width).bind fun bytes front taken => .pure ?_
  obtain ⟨rfl, rfl⟩ := taken
  rw [List.append_nil, encodeNat_decodeNat]
  exact ⟨rfl, Ensures.decodeNat_lt front⟩

theorem octetSequence :
    Takes Reader.octetSequence fun consumed bytes =>
      consumed = encodeList (fun b => [b]) bytes := by
  refine (number 8).bind fun count front counted => (octets count).mono fun back bytes taken => ?_
  obtain ⟨rfl, rfl⟩ := taken
  have same : back.flatMap (fun b => [b]) = back := List.flatMap_singleton' back
  rw [counted.1, encodeList, same]

theorem text : Takes Reader.text fun consumed s => consumed = encodeText s := by
  refine octetSequence.bind fun bytes front taken => ?_
  split
  · rename_i s decoded
    refine .pure ?_
    rw [List.append_nil, taken, ← Utf8.ofString_of_decode? decoded, encodeText]
  · exact .malformed

end Takes

/-! ### Marked octets -/

/-- The octets with the marked ones set to zero. -/
def cleared (marks : List Bool) (octets : List UInt8) : List UInt8 :=
  List.zipWith (fun marked b => if marked then 0 else b) marks octets

def unmarked (count : Nat) : List Bool :=
  List.replicate count false

def optionMarks (item : α → List Bool) : Option α → List Bool
  | none => unmarked 1
  | some a => unmarked 1 ++ item a

def listMarks (item : α → List Bool) (items : List α) : List Bool :=
  unmarked 8 ++ items.flatMap item

/-- There is a mark for every octet, and setting the marked ones to zero gives the form. -/
structure Clears (marks : List Bool) (octets form : List UInt8) : Prop where
  length : marks.length = octets.length
  form : cleared marks octets = form

namespace Clears

variable {marks more : List Bool} {octets others form last : List UInt8}

theorem append (front : Clears marks octets form) (back : Clears more others last) :
    Clears (marks ++ more) (octets ++ others) (form ++ last) where
  length := by rw [List.length_append, List.length_append, front.length, back.length]
  form := by
    rw [cleared, List.zipWith_append front.length]
    exact congrArg₂ (· ++ ·) front.form back.form

theorem kept (octets : List UInt8) : Clears (unmarked octets.length) octets octets where
  length := List.length_replicate
  form := by
    induction octets with
    | nil => rfl
    | cons b octets ih => exact congrArg (b :: ·) ih

theorem set (octets : List UInt8) :
    Clears (List.replicate octets.length true) octets (List.replicate octets.length 0) where
  length := List.length_replicate
  form := by
    induction octets with
    | nil => rfl
    | cons b octets ih => exact congrArg (0 :: ·) ih

theorem number (width n : Nat) :
    Clears (unmarked width) (encodeNat width n) (encodeNat width n) := by
  have same := kept (encodeNat width n)
  rw [length_encodeNat] at same
  exact same

theorem length_eq (clears : Clears marks octets form) : octets.length = form.length := by
  rw [← clears.form, cleared, List.length_zipWith, clears.length, Nat.min_self]

/-- An octet that is not marked is that of the form. -/
theorem getElem?_eq (clears : Clears marks octets form) {i : Nat}
    (plain : marks[i]? ≠ some true) : octets[i]? = form[i]? := by
  rw [← clears.form, cleared, List.getElem?_zipWith]
  by_cases inside : i < octets.length
  · have marked : i < marks.length := clears.length ▸ inside
    rw [List.getElem?_eq_getElem marked] at plain ⊢
    rw [List.getElem?_eq_getElem inside]
    have off : marks[i] = false := by
      cases mark : marks[i] with
      | false => rfl
      | true => exact absurd (congrArg some mark) plain
    simp [off]
  · have outside : marks.length ≤ i := clears.length ▸ Nat.le_of_not_lt inside
    rw [List.getElem?_eq_none (Nat.le_of_not_lt inside), List.getElem?_eq_none outside]

end Clears

/-- The reader takes octets that are the form of what it reads, once the marked ones are zero. -/
def Restores (reader : Reader α) (form : α → List UInt8) (marks : α → List Bool) : Prop :=
  Takes reader fun consumed a => Clears (marks a) consumed (form a)

namespace Restores

variable {form : α → List UInt8} {marks : α → List Bool}

theorem option (item : Restores reader form marks) :
    Restores (Reader.option reader) (encodeOption form) (optionMarks marks) := by
  refine (Takes.number 1).bind fun tag front tagged => ?_
  obtain ⟨rfl, -⟩ := tagged
  split
  · exact .pure (Clears.number 1 0)
  · rw [map_eq_pure_bind]
    refine item.bind fun a consumed clears => .pure ?_
    rw [List.append_nil]
    exact (Clears.number 1 1).append clears
  · exact .malformed

theorem repeated (item : Restores reader form marks) (count : Nat) :
    Takes (Reader.repeated reader count) fun consumed items =>
      items.length = count ∧ Clears (items.flatMap marks) consumed (items.flatMap form) := by
  induction count with
  | zero => exact .pure ⟨rfl, .kept []⟩
  | succ count ih =>
    refine item.bind fun a front clears => ih.bind fun others back later => .pure ⟨?_, ?_⟩
    · rw [List.length_cons, later.1]
    · rw [List.append_nil, List.flatMap_cons, List.flatMap_cons]
      exact clears.append later.2

theorem sequence (item : Restores reader form marks) :
    Restores (Reader.sequence reader) (encodeList form) (listMarks marks) := by
  refine (Takes.number 8).bind fun count front counted =>
    (item.repeated count).mono fun back items taken => ?_
  obtain ⟨rfl, clears⟩ := taken
  rw [counted.1]
  exact (Clears.number 8 items.length).append clears

end Restores

end Binary

open Binary

namespace Address

variable {octets : List UInt8} {scope : UInt32} {a : Address}

/-- The scope index behind no octets and behind four octets is dropped. -/
def droppedScope (a : Address) : List Bool :=
  unmarked (8 + a.octets.length) ++
    List.replicate 4 (decide (a.octets.length = 0 ∨ a.octets.length = 4))

theorem octets_of_ofMemory (accepted : ofMemory octets scope = .ok a) :
    a.octets = octets ∧
      ((octets.length = 4 ∧ a.scope = 0) ∨ (octets.length = 16 ∧ a.scope = scope)) := by
  rw [ofMemory] at accepted
  split at accepted
  · rename_i found
    cases accepted
    rw [ofOctets?] at found
    split at found
    · rename_i four same
      cases found
      rw [Octets.ofList?_eq_some_iff.mp same]
      exact ⟨rfl, .inl ⟨four.length_toList, rfl⟩⟩
    · obtain ⟨sixteen, same, rfl⟩ := Option.map_eq_some_iff.mp found
      rw [Octets.ofList?_eq_some_iff.mp same]
      exact ⟨rfl, .inr ⟨sixteen.length_toList, rfl⟩⟩
  · cases accepted

/-- The octets are told again by the address, and the scope index unless it is dropped. -/
theorem clears_binary {word : Nat} (small : word < 256 ^ 4) (kept : a.octets = octets)
    (dropped : (octets.length = 0 ∨ octets.length = 4) ∧ a.scope = 0 ∨
      octets.length = 16 ∧ a.scope = UInt32.ofNat word) :
    Clears a.droppedScope (encodeList (fun b => [b]) octets ++ encodeNat 4 word) a.binary := by
  have counted : (encodeList (fun b => [b]) octets).length = 8 + octets.length := by
    rw [encodeList, List.length_append, length_encodeNat, List.flatMap_singleton']
  have front := Clears.kept (encodeList (fun b => [b]) octets)
  rw [counted] at front
  rw [droppedScope, binary, kept]
  refine front.append ?_
  rcases dropped with ⟨short, zero⟩ | ⟨long, same⟩
  · have back := Clears.set (encodeNat 4 word)
    rw [length_encodeNat] at back
    rw [decide_eq_true short, zero]
    exact back
  · have long' : ¬ (octets.length = 0 ∨ octets.length = 4) := by omega
    have told : (UInt32.ofNat word).toNat = word := UInt32.toNat_ofNat_of_lt' small
    rw [decide_eq_false long', same, told]
    exact .number 4 word

theorem restores : Restores binaryReader binary droppedScope := by
  refine Takes.octetSequence.bind fun octets front sized => ?_
  refine (Takes.number 4).bind fun word back numbered => ?_
  obtain ⟨rfl, small⟩ := numbered
  rw [sized]
  split
  · rename_i empty
    rw [List.isEmpty_iff.mp empty]
    refine .pure ?_
    rw [List.append_nil]
    exact clears_binary small rfl (.inl ⟨.inl rfl, rfl⟩)
  · cases judged : ofMemory octets (UInt32.ofNat word) with
    | error e => nofun
    | ok a =>
      obtain ⟨kept, four | sixteen⟩ := octets_of_ofMemory judged
      · refine .pure ?_
        rw [List.append_nil]
        exact clears_binary small kept (.inl ⟨.inr four.1, four.2⟩)
      · refine .pure ?_
        rw [List.append_nil]
        exact clears_binary small kept (.inr sixteen)

end Address

namespace Endpoint

def droppedScopes (e : Endpoint) : List Bool :=
  e.address.droppedScope ++ unmarked 2

theorem restores : Restores binaryReader binary droppedScopes := by
  refine Address.restores.bind fun address front clears => ?_
  refine (Takes.number 2).bind fun number back numbered => .pure ?_
  obtain ⟨rfl, small⟩ := numbered
  have told : (UInt16.ofNat number).toNat = number := UInt16.toNat_ofNat_of_lt' small
  rw [List.append_nil, droppedScopes, binary, told]
  exact clears.append (.number 2 number)

end Endpoint

namespace Binding

def droppedScopes (b : Binding) : List Bool :=
  b.unicast.droppedScope ++ optionMarks Address.droppedScope b.netmask ++
    optionMarks Address.droppedScope b.broadcast

theorem restores : Restores binaryReader binary droppedScopes := by
  refine Address.restores.bind fun unicast front first => ?_
  refine Address.restores.option.bind fun netmask middle second => ?_
  refine Address.restores.option.bind fun broadcast back third => .pure ?_
  rw [List.append_nil, ← List.append_assoc]
  exact (first.append second).append third

end Binding

namespace Interface

def droppedScopes (i : Interface) : List Bool :=
  unmarked (encodeText i.name).length ++ unmarked (encodeText i.displayName).length ++ unmarked 4 ++
    listMarks Binding.droppedScopes i.bindings

theorem restores : Restores binaryReader binary droppedScopes := by
  refine Takes.text.bind fun name first named => ?_
  refine Takes.text.bind fun displayName second displayed => ?_
  refine (Takes.number 4).bind fun index third numbered => ?_
  refine Binding.restores.sequence.bind fun bindings fourth clears => .pure ?_
  obtain ⟨rfl, small⟩ := numbered
  have told : (UInt32.ofNat index).toNat = index := UInt32.toNat_ofNat_of_lt' small
  rw [List.append_nil, ← List.append_assoc, ← List.append_assoc, named, displayed, droppedScopes,
    binary, told]
  exact (((Clears.kept _).append (.kept _)).append (.number 4 index)).append clears

end Interface

namespace Binary

variable {α : Type} {reader : Reader α} {form : α → List UInt8} {marks : α → List Bool}

/-- What is decoded is written again as it was read but for the marked octets, which become zero;
so octets that are decoded as one value differ where they are marked only. -/
def CanonicalBut (marks : α → List Bool) (reader : Reader α) (form : α → List UInt8) : Prop :=
  (∀ (input : List UInt8) (a : α), Reader.run reader input = .ok a →
    ∃ consumed rest, input = consumed ++ rest ∧ reader input = .ok (a, rest) ∧
      consumed.length = (form a).length ∧ form a = cleared (marks a) consumed) ∧
  ∀ (one other rest rest' : List UInt8) (a : α), reader (one ++ rest) = .ok (a, rest) →
    reader (other ++ rest') = .ok (a, rest') →
    one.length = other.length ∧ ∀ i : Nat, (marks a)[i]? ≠ some true → one[i]? = other[i]?

theorem Restores.clears (restores : Restores reader form marks) {octets rest : List UInt8} {a : α}
    (read : reader (octets ++ rest) = .ok (a, rest)) : Clears (marks a) octets (form a) := by
  obtain ⟨consumed, parts, clears⟩ := restores _ a rest read
  rw [List.append_cancel_right parts]
  exact clears

theorem Restores.canonicalBut (restores : Restores reader form marks) :
    CanonicalBut marks reader form := by
  constructor
  · intro input a accepted
    rw [Reader.run] at accepted
    split at accepted
    · cases accepted
    · rename_i b rest read
      cases accepted
      obtain ⟨consumed, parts, clears⟩ := restores input a rest read
      exact ⟨consumed, rest, parts, read, clears.length_eq, clears.form.symm⟩
  · intro one other rest rest' a first second
    have clearsOne := restores.clears first
    have clearsOther := restores.clears second
    refine ⟨clearsOne.length_eq.trans clearsOther.length_eq.symm, fun i plain => ?_⟩
    rw [clearsOne.getElem?_eq plain, clearsOther.getElem?_eq plain]

/-- Of the octets that are decoded, only scope indexes that no IPv6 address has are lost. -/
theorem forms_canonical_but_scopes :
    CanonicalBut Address.droppedScope Address.binaryReader Address.binary ∧
    CanonicalBut Endpoint.droppedScopes Endpoint.binaryReader Endpoint.binary ∧
    CanonicalBut Binding.droppedScopes Binding.binaryReader Binding.binary ∧
    CanonicalBut Interface.droppedScopes Interface.binaryReader Interface.binary ∧
    CanonicalBut (listMarks Interface.droppedScopes) (Reader.sequence Interface.binaryReader)
      (encodeList Interface.binary) :=
  ⟨Address.restores.canonicalBut, Endpoint.restores.canonicalBut, Binding.restores.canonicalBut,
    Interface.restores.canonicalBut, Interface.restores.sequence.canonicalBut⟩

example : Reader.run Address.binaryReader [4, 0, 0, 0, 0, 0, 0, 0, 127, 0, 0, 1, 9, 0, 0, 0] =
    .ok (.v4 #v[127, 0, 0, 1]) := by decide

example : (Address.v4 #v[127, 0, 0, 1]).binary =
    cleared (Address.v4 #v[127, 0, 0, 1]).droppedScope
      [4, 0, 0, 0, 0, 0, 0, 0, 127, 0, 0, 1, 9, 0, 0, 0] := by decide

end Binary

end HostNet
