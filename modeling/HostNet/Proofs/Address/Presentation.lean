import HostNet.Proofs.Address.Foreign

/-!
Addresses and their texts. Every address is read back from its text by `ofPresentation`; `parse`
reads just the texts that need neither a scope nor an empty form.
-/

namespace HostNet.Address

variable {octets : Octets 16} {scope : UInt32} {cs : List Char}

theorem room_v4 (octets : Octets 4) :
    fitted Room.usual.v4 (DottedQuad.write octets) = some (DottedQuad.write octets) :=
  if_pos (DottedQuad.length_write_lt octets)

theorem text_v4 (octets : Octets 4) :
    (Address.v4 octets).text = String.ofList (DottedQuad.write octets) := by
  simp only [text, textWithin, room_v4, Option.getD_some]

theorem room_v6 (octets : Octets 16) :
    fitted Room.usual.v6 (ColonGroups.write .platform octets) =
      some (ColonGroups.write .platform octets) :=
  if_pos (ColonGroups.length_write_lt .platform octets)

theorem text_unscoped (octets : Octets 16) :
    (Address.v6 octets 0).text = String.ofList (ColonGroups.write .platform octets) := by
  simp only [text, textWithin, room_v6, if_true]

theorem text_scoped (octets : Octets 16) (nonzero : scope ≠ 0) :
    (Address.v6 octets scope).text =
      String.ofList (ColonGroups.write .platform octets ++ '%' :: Numeral.decimal scope.toNat) := by
  simp only [text, textWithin, room_v6, if_neg nonzero]

theorem parseScoped_dotted (octets : Octets 4) (scope : UInt32) :
    parseScoped (String.ofList (DottedQuad.write octets)) scope = .ok (.v4 octets) := by
  have nul := DottedQuad.nul_not_mem_write octets
  have colon := DottedQuad.colon_not_mem_write octets
  simp only [parseScoped, parseWith, String.toList_ofList, if_neg nul, if_neg colon,
    DottedQuad.read?_write, Option.map_some]

theorem parseScoped_groups (octets : Octets 16) (scope : UInt32) :
    parseScoped (String.ofList (ColonGroups.write .platform octets)) scope =
      .ok (.v6 octets scope) := by
  have nul := ColonGroups.nul_not_mem_write .platform octets
  have colon := ColonGroups.colon_mem_write .platform octets
  simp only [parseScoped, parseWith, String.toList_ofList, if_neg nul, if_pos colon,
    ColonGroups.read?_write, Option.map_some]

theorem parse_percent (member : '%' ∈ cs) :
    parse (String.ofList cs) = .error (.notAnAddress (String.ofList cs)) := by
  have groups := ColonGroups.read?_of_foreign ColonGroups.foreign_percent member
  have quad := DottedQuad.read?_of_foreign ColonGroups.foreign_percent.point
    ColonGroups.foreign_percent.decimal member
  simp only [parse, parseScoped, parseWith, String.toList_ofList, groups, quad, Option.map_none,
    ite_self]

theorem parse_empty : parse "" = .error (.notAnAddress "") := by
  cbv

theorem scopeIndex?_decimal (scope : UInt32) :
    scopeIndex? (Numeral.decimal scope.toNat) = some scope := by
  have unsigned : (Numeral.decimal scope.toNat).head? ≠ some '+' := by
    intro plus
    have member := List.mem_of_mem_head? plus
    exact Numeral.not_mem_toDigits (by decide) (by decide) (by decide) member
  have read : Numeral.read? 10 (Numeral.decimal scope.toNat) = some scope.toNat :=
    Numeral.read?_toDigits (by decide) (by decide) _
  have small : scope.toNat < 4294967296 := scope.toNat_lt
  simp only [scopeIndex?, if_neg unsigned, read, if_pos small, UInt32.ofNat_toNat]

theorem ofPresentation_of_plain (written : cs ≠ []) (plain : '%' ∉ cs) :
    ofPresentation (String.ofList cs) = parse (String.ofList cs) := by
  have nonempty : (String.ofList cs).isEmpty = false := by
    simpa using written
  simp only [ofPresentation, nonempty, String.toList_ofList, Text.splitAtFirst_of_not_mem plain]
  rfl

theorem ofPresentation_scoped (octets : Octets 16) (scope : UInt32) :
    ofPresentation (String.ofList (ColonGroups.write .platform octets ++
      '%' :: Numeral.decimal scope.toNat)) = .ok (.v6 octets scope) := by
  have percent := ColonGroups.percent_not_mem_write .platform octets
  have nonempty : (String.ofList (ColonGroups.write .platform octets ++
      '%' :: Numeral.decimal scope.toNat)).isEmpty = false := by
    simp
  have colon := ColonGroups.colon_mem_write .platform octets
  simp only [ofPresentation, nonempty, String.toList_ofList, Text.splitAtFirst_append percent,
    if_pos colon, scopeIndex?_decimal, parseScoped_groups]
  rfl

theorem ofPresentation_text (a : Address) : ofPresentation a.text = .ok a := by
  cases a with
  | unspecified => rfl
  | v4 octets =>
    have written := List.ne_nil_of_mem (DottedQuad.point_mem_write octets)
    have plain := DottedQuad.percent_not_mem_write octets
    rw [text_v4, ofPresentation_of_plain written plain]
    exact parseScoped_dotted octets 0
  | v6 octets scope =>
    by_cases unscoped : scope = 0
    · have written := List.ne_nil_of_mem (ColonGroups.colon_mem_write .platform octets)
      have plain := ColonGroups.percent_not_mem_write .platform octets
      rw [unscoped, text_unscoped, ofPresentation_of_plain written plain]
      exact parseScoped_groups octets 0
    · rw [text_scoped octets unscoped]
      exact ofPresentation_scoped octets scope

theorem eq_of_text_eq {a b : Address} (same : a.text = b.text) : a = b := by
  have read := ofPresentation_text a
  rw [same, ofPresentation_text b] at read
  exact (Except.ok.inj read).symm

/-- The addresses whose text has an address form without more: IPv4 ones and unscoped IPv6 ones. -/
def Plain (a : Address) : Prop :=
  a.family = .ipv4 ∨ (a.family = .ipv6 ∧ a.scope = 0)

theorem parse_text_of_plain {a : Address} (plain : a.Plain) : parse a.text = .ok a := by
  cases a with
  | unspecified => rcases plain with family | ⟨family, _⟩ <;> cases family
  | v4 octets =>
    rw [text_v4]
    exact parseScoped_dotted octets 0
  | v6 octets scope =>
    rcases plain with family | ⟨_, unscoped⟩
    · cases family
    · change scope = 0 at unscoped
      rw [unscoped, text_unscoped]
      exact parseScoped_groups octets 0

theorem parse_text_of_not_plain {a : Address} (special : ¬ a.Plain) :
    parse a.text = .error (.notAnAddress a.text) := by
  cases a with
  | unspecified => exact parse_empty
  | v4 octets => exact absurd (.inl rfl) special
  | v6 octets scope =>
    have nonzero : scope ≠ 0 := fun unscoped => special (.inr ⟨rfl, unscoped⟩)
    rw [text_scoped octets nonzero]
    exact parse_percent (by simp)

theorem not_plain_iff (a : Address) :
    ¬ a.Plain ↔ a.family = .unspecified ∨ (a.family = .ipv6 ∧ a.scope ≠ 0) := by
  cases a <;> simp [Plain, family, Address.scope]

theorem parse_text (a : Address) :
    (parse a.text = .ok a ↔ a.Plain) ∧ (parse a.text = .error (.notAnAddress a.text) ↔ ¬ a.Plain) := by
  by_cases plain : a.Plain
  · have read := parse_text_of_plain plain
    simp [read, plain]
  · have refused := parse_text_of_not_plain plain
    simp [refused, plain]

/-- The text of an address determines it, and is read back with the scope. Without a way to read
scopes and the empty text, the plain addresses are read back and all others are refused. -/
theorem text_round_trip (a b : Address) :
    ofPresentation a.text = .ok a ∧
    (parse a.text = .ok a ↔ a.family = .ipv4 ∨ (a.family = .ipv6 ∧ a.scope = 0)) ∧
    (parse a.text = .error (.invalidAddress a.text "IP address is not valid.") ↔
      a.family = .unspecified ∨ (a.family = .ipv6 ∧ a.scope ≠ 0)) ∧
    (a.text = b.text ↔ a = b) := by
  obtain ⟨accepted, refused⟩ := parse_text a
  exact ⟨ofPresentation_text a, accepted, refused.trans (not_plain_iff a), eq_of_text_eq,
    congrArg text⟩

end HostNet.Address
