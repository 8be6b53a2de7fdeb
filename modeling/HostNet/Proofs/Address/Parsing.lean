import HostNet.Proofs.Address.Grammar

/-!
Parsing of addresses against their grammar. The text of an address is parsed to the address it
denotes, every other text is refused, and the scope decides neither.
-/

namespace HostNet.Address

/-- The texts of addresses. A text with a colon is for IPv6, and its address has the given scope. -/
inductive Denotes (scope : UInt32) (cs : List Char) : Address → Prop
  | v4 {octets : Octets 4} : ':' ∉ cs → DottedQuad.Denotes cs octets → Denotes scope cs (.v4 octets)
  | v6 {octets : Octets 16} : ':' ∈ cs → ColonGroups.Denotes cs octets →
    Denotes scope cs (.v6 octets scope)

variable {input : String} {scope : UInt32} {a : Address}

/-- What the reader for the text's family makes of it. -/
def found? (cs : List Char) (scope : UInt32) : Option Address :=
  if ':' ∈ cs then (ColonGroups.read? cs).map (Address.v6 · scope)
  else (DottedQuad.read? cs).map Address.v4

theorem found?_eq_some_iff {cs : List Char} : found? cs scope = some a ↔ Denotes scope cs a := by
  unfold found?
  split
  · rename_i colon
    constructor
    · intro found
      obtain ⟨octets, read, rfl⟩ := Option.map_eq_some_iff.mp found
      exact .v6 colon (ColonGroups.read?_eq_some_iff.mp read)
    · intro denotes
      cases denotes with
      | v4 plain => exact absurd colon plain
      | v6 _ denotes => rw [ColonGroups.read?_eq_some_iff.mpr denotes, Option.map_some]
  · rename_i plain
    constructor
    · intro found
      obtain ⟨octets, read, rfl⟩ := Option.map_eq_some_iff.mp found
      exact .v4 plain (DottedQuad.read?_eq_some_iff.mp read)
    · intro denotes
      cases denotes with
      | v4 _ denotes => rw [DottedQuad.read?_eq_some_iff.mpr denotes, Option.map_some]
      | v6 colon => exact absurd colon plain

theorem parseScoped_eq (input : String) (scope : UInt32) :
    parseScoped input scope =
      if '\x00' ∈ input.toList then .error (.notAnAddress input)
      else
        match found? input.toList scope with
        | some a => .ok a
        | none => .error (.notAnAddress input) :=
  rfl

theorem parseScoped_eq_ok_iff :
    parseScoped input scope = .ok a ↔
      '\x00' ∉ input.toList ∧ Denotes scope input.toList a := by
  rw [parseScoped_eq, ← found?_eq_some_iff]
  by_cases zero : '\x00' ∈ input.toList
  · simp [zero]
  · cases found : found? input.toList scope <;> simp [zero]

theorem parseScoped_of_not_ok (refused : ∀ a, parseScoped input scope ≠ .ok a) :
    parseScoped input scope = .error (.notAnAddress input) := by
  rw [parseScoped_eq] at refused ⊢
  by_cases zero : '\x00' ∈ input.toList
  · rw [if_pos zero]
  · rw [if_neg zero] at refused ⊢
    cases found : found? input.toList scope with
    | none => rfl
    | some a =>
      rw [found] at refused
      exact absurd rfl (refused a)

theorem octets_parseScoped (input : String) (scope other : UInt32) :
    (parseScoped input scope).map octets = (parseScoped input other).map octets := by
  rw [parseScoped_eq, parseScoped_eq, found?, found?]
  split
  · rfl
  -- Neither reader sees the scope.
  · by_cases colon : ':' ∈ input.toList
    · rw [if_pos colon, if_pos colon]
      cases ColonGroups.read? input.toList <;> rfl
    · rw [if_neg colon, if_neg colon]

/-- A parsed address is the one that the text denotes, a text that denotes none is refused by name,
and another scope changes neither whether there is an address nor its octets. -/
theorem parses_exactly (input : String) (scope : UInt32) :
    (∀ a, parseScoped input scope = .ok a ↔
      '\x00' ∉ input.toList ∧ Denotes scope input.toList a) ∧
    (parseScoped input scope = .error (.invalidAddress input "IP address is not valid.") ↔
      ¬ ∃ a, '\x00' ∉ input.toList ∧ Denotes scope input.toList a) ∧
    ∀ other, (parseScoped input other).map octets = (parseScoped input scope).map octets := by
  refine ⟨fun a => parseScoped_eq_ok_iff, ?_, fun other => octets_parseScoped input other scope⟩
  constructor
  · rintro refused ⟨a, denotes⟩
    rw [parseScoped_eq_ok_iff.mpr denotes] at refused
    cases refused
  · intro unread
    exact parseScoped_of_not_ok fun a parsed => unread ⟨a, parseScoped_eq_ok_iff.mp parsed⟩

end HostNet.Address
