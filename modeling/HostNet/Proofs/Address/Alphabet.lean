import HostNet.Proofs.Address.ColonGroups

/-!
What the text of sixteen octets is made of: hexadecimal digits, dots and at least one colon, fewer
than 46 characters in all.
-/

namespace HostNet.ColonGroups

variable {style : Style} {octets : Octets 16} {c : Char} {part : List Char} {start length : Nat}

theorem mem_allParts (member : part ∈ allParts style octets) :
    (∃ g < 65536, part = Numeral.hexadecimal g) ∨ ∃ quad, part = DottedQuad.write quad := by
  have small := groups_lt octets.toList
  unfold allParts at member
  split at member
  · rcases List.mem_append.mp member with member | member
    · obtain ⟨g, present, rfl⟩ := List.mem_map.mp member
      exact .inl ⟨g, small g (List.mem_of_mem_take present), rfl⟩
    · exact .inr ⟨_, List.mem_singleton.mp member⟩
  · obtain ⟨g, present, rfl⟩ := List.mem_map.mp member
    exact .inl ⟨g, small g present, rfl⟩

/-- A character of the text: a mark between the parts or a lower-case hexadecimal digit. -/
def Letter (c : Char) : Prop :=
  c = ':' ∨ c = '.' ∨ ∃ d < 16, c = Nat.digitChar d

theorem letter_of_mem_toDigits {base n : Nat} (large : 1 < base) (bounded : base ≤ 16)
    (member : c ∈ Nat.toDigits base n) : Letter c := by
  obtain ⟨d, small, written⟩ := Numeral.exists_digitChar_of_mem_toDigits large member
  exact .inr (.inr ⟨d, by omega, written⟩)

theorem letter_of_mem_part (present : part ∈ allParts style octets) (member : c ∈ part) :
    Letter c := by
  rcases mem_allParts present with ⟨g, _, rfl⟩ | ⟨quad, rfl⟩
  · exact letter_of_mem_toDigits (by decide) (by decide) member
  · rcases DottedQuad.mem_write quad member with point | ⟨b, digit⟩
    · exact .inr (.inl point)
    · exact letter_of_mem_toDigits (by decide) (by decide) digit

theorem letter_of_mem_joined {texts : List (List Char)}
    (each : ∀ part ∈ texts, ∀ c ∈ part, Letter c) (member : c ∈ Text.joined [':'] texts) :
    Letter c := by
  rcases Text.mem_joined member with between | ⟨part, present, inside⟩
  · exact .inl (List.mem_singleton.mp between)
  · exact each part present c inside

theorem letter_of_mem_write (member : c ∈ write style octets) : Letter c := by
  cases found : longestZeroRun (groups octets.toList) with
  | mk start length =>
    by_cases few : length < 2
    · rw [write_eq_joined found few] at member
      apply letter_of_mem_joined _ member
      intro part present c inside
      obtain ⟨g, _, rfl⟩ := List.mem_map.mp present
      exact letter_of_mem_toDigits (by decide) (by decide) inside
    · rw [write_eq_elided found few] at member
      simp only [List.mem_append, List.mem_cons] at member
      rcases member with front | colon | colon | back
      · apply letter_of_mem_joined _ front
        intro part present c inside
        exact letter_of_mem_part (List.mem_of_mem_take present) inside
      · exact .inl colon
      · exact .inl colon
      · apply letter_of_mem_joined _ back
        intro part present c inside
        exact letter_of_mem_part (List.mem_of_mem_drop present) inside

theorem not_mem_write (style : Style) (octets : Octets 16) (colon : c ≠ ':') (point : c ≠ '.')
    (foreign : ∀ d, d < 16 → c ≠ Nat.digitChar d) : c ∉ write style octets := by
  intro member
  rcases letter_of_mem_write member with mark | mark | ⟨d, small, digit⟩
  · exact colon mark
  · exact point mark
  · exact foreign d small digit

theorem nul_not_mem_write (style : Style) (octets : Octets 16) : '\x00' ∉ write style octets :=
  not_mem_write style octets (by decide) (by decide) (by decide)

theorem percent_not_mem_write (style : Style) (octets : Octets 16) : '%' ∉ write style octets :=
  not_mem_write style octets (by decide) (by decide) (by decide)

theorem colon_mem_write (style : Style) (octets : Octets 16) : ':' ∈ write style octets := by
  cases found : longestZeroRun (groups octets.toList) with
  | mk start length =>
    by_cases few : length < 2
    · rw [write_eq_joined found few]
      apply Text.separator_mem_joined
      rw [List.length_map, length_groups_octets]
      decide
    · rw [write_eq_elided found few]
      simp

theorem length_hexadecimal_le {g : Nat} (small : g < 65536) :
    (Numeral.hexadecimal g).length ≤ 4 :=
  (Nat.length_toDigits_le_iff (by decide) (by decide)).mpr small

theorem length_plain_le (gs : List Nat) (small : ∀ g ∈ gs, g < 65536) :
    (Text.joined [':'] (gs.map Numeral.hexadecimal)).length ≤ gs.length * 5 - 1 := by
  have narrow : ∀ part ∈ gs.map Numeral.hexadecimal, part.length ≤ 4 := by
    intro part member
    obtain ⟨g, present, rfl⟩ := List.mem_map.mp member
    exact length_hexadecimal_le (small g present)
  have bound := Text.length_joined_le ':' 4 narrow
  rw [List.length_map] at bound
  exact bound

theorem length_part_lt (member : part ∈ allParts style octets) : part.length < 16 := by
  rcases mem_allParts member with ⟨g, small, rfl⟩ | ⟨quad, rfl⟩
  · have short := length_hexadecimal_le small
    omega
  · exact DottedQuad.length_write_lt quad

/-- At most one group stands before a dotted quad. -/
theorem length_dotted_lt (found : longestZeroRun (groups octets.toList) = (start, length))
    (dotted : style.endsDotted (groups octets.toList) = true) :
    (write style octets).length < 46 := by
  obtain ⟨rfl, run⟩ := endsDotted_run found dotted
  have parts : (allParts style octets).length = 7 := by
    simp [allParts, if_pos dotted, length_groups_octets]
  have narrow : ∀ part ∈ (allParts style octets).drop (0 + length), part.length ≤ 15 :=
    fun part member => Nat.le_of_lt_succ (length_part_lt (List.mem_of_mem_drop member))
  have bound := Text.length_joined_le ':' 15 narrow
  rw [List.length_drop, parts] at bound
  rw [write_eq_elided found (by omega), List.take_zero, Text.joined, List.nil_append,
    List.length_cons, List.length_cons]
  omega

theorem length_elided_lt (found : longestZeroRun (groups octets.toList) = (start, length))
    (many : ¬ length < 2) (plain : ¬ style.endsDotted (groups octets.toList) = true) :
    (write style octets).length < 46 := by
  have within := (longestZeroRun_run found).within
  have small := groups_lt octets.toList
  have front := length_plain_le ((groups octets.toList).take start) fun g member =>
    small g (List.mem_of_mem_take member)
  have back := length_plain_le ((groups octets.toList).drop (start + length)) fun g member =>
    small g (List.mem_of_mem_drop member)
  rw [List.length_take] at front
  rw [List.length_drop] at back
  rw [length_groups_octets] at *
  rw [write_eq_elided found many, allParts, if_neg plain, ← List.map_take, ← List.map_drop,
    List.length_append, List.length_cons, List.length_cons]
  omega

theorem length_write_lt (style : Style) (octets : Octets 16) :
    (write style octets).length < 46 := by
  cases found : longestZeroRun (groups octets.toList) with
  | mk start length =>
    by_cases few : length < 2
    · have bound := length_plain_le (groups octets.toList) (groups_lt octets.toList)
      rw [length_groups_octets] at bound
      rw [write_eq_joined found few]
      omega
    · by_cases dotted : style.endsDotted (groups octets.toList) = true
      · exact length_dotted_lt found dotted
      · exact length_elided_lt found few dotted

end HostNet.ColonGroups
