import HostNet.Proofs.Address.Parsing
import HostNet.Proofs.Address.Presentation

/-!
What is read as the presentation of an address: the empty text, every text that `parse` reads, and a
text for an IPv6 address with a percent sign and a scope index behind it.
-/

namespace HostNet.Address

variable {input : String} {cs host index : List Char} {scope : UInt32} {octets : Octets 16}
  {a : Address}

/-- A number below 2³² in decimal digits, with or without a plus sign before them. -/
inductive ScopeIndex : List Char → UInt32 → Prop
  | plain {digits : List Char} {n : Nat} : Numeral.Denotes 10 digits n → n ≤ 4294967295 →
    ScopeIndex digits (UInt32.ofNat n)
  | signed {digits : List Char} {n : Nat} : Numeral.Denotes 10 digits n → n ≤ 4294967295 →
    ScopeIndex ('+' :: digits) (UInt32.ofNat n)

/-- The presentations of addresses. The first percent sign divides an IPv6 address from the index of
its scope. -/
inductive Presents : List Char → Address → Prop
  | unspecified : Presents [] .unspecified
  | plain {cs : List Char} {a : Address} : '%' ∉ cs → parse (String.ofList cs) = .ok a →
    Presents cs a
  | indexed {host index : List Char} {octets : Octets 16} {scope : UInt32} : '%' ∉ host →
    ':' ∈ host → parse (String.ofList host) = .ok (.v6 octets 0) → ScopeIndex index scope →
    Presents (host ++ '%' :: index) (.v6 octets scope)

theorem plus_not_head {n : Nat} (denotes : Numeral.Denotes 10 cs n) : cs.head? ≠ some '+' :=
  fun plus => denotes.not_mem (by decide) (by decide) (List.mem_of_mem_head? plus)

/-- What a scope index is read as when its sign is off. -/
def unsignedIndex? (digits : List Char) : Option UInt32 :=
  (Numeral.read? 10 digits).bind fun n =>
    if n < 4294967296 then some (UInt32.ofNat n) else none

theorem unsignedIndex?_eq_some_iff {digits : List Char} :
    unsignedIndex? digits = some scope ↔
      ∃ n ≤ 4294967295, Numeral.Denotes 10 digits n ∧ UInt32.ofNat n = scope := by
  have reads (n : Nat) : Numeral.read? 10 digits = some n ↔ Numeral.Denotes 10 digits n :=
    Numeral.read?_eq_some_iff (by decide)
  simp only [unsignedIndex?, Option.bind_eq_some_iff, Option.ite_none_right_eq_some,
    Option.some.injEq, reads]
  constructor
  · rintro ⟨n, denotes, small, same⟩
    exact ⟨n, Nat.le_of_lt_succ small, denotes, same⟩
  · rintro ⟨n, small, denotes, same⟩
    exact ⟨n, denotes, Nat.lt_succ_of_le small, same⟩

theorem scopeIndex?_signed (digits : List Char) :
    scopeIndex? ('+' :: digits) = unsignedIndex? digits := by
  simp only [scopeIndex?, List.head?_cons, if_true, List.tail_cons, unsignedIndex?]
  cases Numeral.read? 10 digits <;> rfl

theorem scopeIndex?_unsigned {digits : List Char} (unsigned : digits.head? ≠ some '+') :
    scopeIndex? digits = unsignedIndex? digits := by
  simp only [scopeIndex?, if_neg unsigned, unsignedIndex?]
  cases Numeral.read? 10 digits <;> rfl

theorem scopeIndex?_eq_some_iff : scopeIndex? index = some scope ↔ ScopeIndex index scope := by
  constructor
  · intro found
    by_cases sign : index.head? = some '+'
    · obtain ⟨digits, rfl⟩ := List.head?_eq_some_iff.mp sign
      rw [scopeIndex?_signed] at found
      obtain ⟨n, small, denotes, rfl⟩ := unsignedIndex?_eq_some_iff.mp found
      exact .signed denotes small
    · rw [scopeIndex?_unsigned sign] at found
      obtain ⟨n, small, denotes, rfl⟩ := unsignedIndex?_eq_some_iff.mp found
      exact .plain denotes small
  · intro written
    cases written with
    | @plain digits n denotes small =>
      rw [scopeIndex?_unsigned (plus_not_head denotes)]
      exact unsignedIndex?_eq_some_iff.mpr ⟨n, small, denotes, rfl⟩
    | @signed digits n denotes small =>
      rw [scopeIndex?_signed]
      exact unsignedIndex?_eq_some_iff.mpr ⟨n, small, denotes, rfl⟩

/-- The scope is attached to what is parsed without one. -/
theorem parseScoped_of_colon (colon : ':' ∈ host) :
    parseScoped (String.ofList host) scope = .ok a ↔
      ∃ octets, parse (String.ofList host) = .ok (.v6 octets 0) ∧ a = .v6 octets scope := by
  simp only [parse, parseScoped_eq_ok_iff, String.toList_ofList]
  constructor
  · rintro ⟨zero, denotes⟩
    cases denotes with
    | v4 plain => exact absurd colon plain
    | v6 _ denotes => exact ⟨_, ⟨zero, .v6 colon denotes⟩, rfl⟩
  · rintro ⟨octets, ⟨zero, denotes⟩, rfl⟩
    cases denotes with
    | v6 _ denotes => exact ⟨zero, .v6 colon denotes⟩

theorem ne_empty_of_parse (parsed : parse input = .ok a) : input ≠ "" := by
  rintro rfl
  rw [parse_empty] at parsed
  cases parsed

theorem ofPresentation_of_percent (percent : '%' ∉ host) :
    ofPresentation (String.ofList (host ++ '%' :: index)) =
      if ':' ∈ host then
        match scopeIndex? index with
        | some scope => parseScoped (String.ofList host) scope
        | none => .error (.invalidAddress (String.ofList (host ++ '%' :: index))
            "invalid scope index")
      else .error (.notAnAddress (String.ofList (host ++ '%' :: index))) := by
  have nonempty : (String.ofList (host ++ '%' :: index)).isEmpty = false := by simp
  simp only [ofPresentation, nonempty, String.toList_ofList, Text.splitAtFirst_append percent]
  rfl

theorem presents_of_ofPresentation (read : ofPresentation (String.ofList cs) = .ok a) :
    Presents cs a := by
  by_cases percent : '%' ∈ cs
  · obtain ⟨host, index, rfl, absent⟩ := List.eq_append_cons_of_mem percent
    rw [ofPresentation_of_percent absent] at read
    split at read
    · rename_i colon
      split at read
      · rename_i scope found
        obtain ⟨octets, parsed, rfl⟩ := (parseScoped_of_colon colon).mp read
        exact .indexed absent colon parsed (scopeIndex?_eq_some_iff.mp found)
      · cases read
    · cases read
  · by_cases empty : cs = []
    · rw [empty] at read ⊢
      cases read
      exact .unspecified
    · rw [ofPresentation_of_plain empty percent] at read
      exact .plain percent read

theorem ofPresentation_of_presents (presents : Presents cs a) :
    ofPresentation (String.ofList cs) = .ok a := by
  cases presents with
  | unspecified => rfl
  | plain percent parsed =>
    have written : cs ≠ [] := by
      rintro rfl
      exact ne_empty_of_parse parsed rfl
    rw [ofPresentation_of_plain written percent, parsed]
  | indexed percent colon parsed denotes =>
    rw [ofPresentation_of_percent percent, if_pos colon, scopeIndex?_eq_some_iff.mpr denotes]
    exact (parseScoped_of_colon colon).mpr ⟨_, parsed, rfl⟩

theorem ofPresentation_eq_ok_iff : ofPresentation input = .ok a ↔ Presents input.toList a := by
  constructor
  · intro read
    rw [← String.ofList_toList (s := input)] at read
    exact presents_of_ofPresentation read
  · intro presents
    rw [← String.ofList_toList (s := input)]
    exact ofPresentation_of_presents presents

/-- What `parse` reads is what is presented without a percent sign. -/
theorem parse_eq_ok_iff :
    parse input = .ok a ↔ ofPresentation input = .ok a ∧ input ≠ "" ∧ '%' ∉ input.toList := by
  rw [ofPresentation_eq_ok_iff]
  constructor
  · intro parsed
    have written := ne_empty_of_parse parsed
    have plain : '%' ∉ input.toList := by
      intro percent
      rw [← String.ofList_toList (s := input), parse_percent percent] at parsed
      cases parsed
    rw [← String.ofList_toList (s := input)] at parsed
    exact ⟨.plain plain parsed, written, plain⟩
  · rintro ⟨presents, written, plain⟩
    generalize same : input.toList = cs at presents
    cases presents with
    | unspecified => exact absurd (String.toList_eq_nil_iff.mp same) written
    | plain _ parsed =>
      rw [← same, String.ofList_toList] at parsed
      exact parsed
    | indexed =>
      rw [same] at plain
      simp at plain

theorem ofPresentation_v4_iff {octets : Octets 4} :
    ofPresentation input = .ok (.v4 octets) ↔ '%' ∉ input.toList ∧ parse input = .ok (.v4 octets) := by
  constructor
  · intro read
    have presents := ofPresentation_eq_ok_iff.mp read
    generalize same : input.toList = cs at presents ⊢
    cases presents with
    | plain percent parsed =>
      rw [← same, String.ofList_toList] at parsed
      exact ⟨percent, parsed⟩
  · rintro ⟨_, parsed⟩
    exact (parse_eq_ok_iff.mp parsed).1

/-- The texts that are read are the presentations of addresses. Among them are the texts that `parse`
reads, with the same address; no IPv4 address has a scope behind it; and what is read is read again
from its text. -/
theorem presentations_exactly (input : String) :
    (∀ a, ofPresentation input = .ok a ↔ Presents input.toList a) ∧
    (∀ a, parse input = .ok a ↔ ofPresentation input = .ok a ∧ input ≠ "" ∧ '%' ∉ input.toList) ∧
    (∀ octets, ofPresentation input = .ok (.v4 octets) ↔
      '%' ∉ input.toList ∧ parse input = .ok (.v4 octets)) ∧
    (ofPresentation input >>= fun a => ofPresentation a.text) = ofPresentation input := by
  refine ⟨fun _ => ofPresentation_eq_ok_iff, fun _ => parse_eq_ok_iff,
    fun _ => ofPresentation_v4_iff, ?_⟩
  cases read : ofPresentation input with
  | error e => rfl
  | ok a => exact ofPresentation_text a

end HostNet.Address
