import HostNet.Proofs.Address.DottedQuad
import HostNet.Proofs.Address.Elision
import HostNet.Proofs.Address.ZeroRun

/-!
The text of sixteen octets is read as these octets, in either style and wherever their longest zero
run stands.
-/

namespace HostNet.ColonGroups

variable {style : Style} {octets : Octets 16} {gs : List Nat} {g start length : Nat}

theorem group?_hexadecimal (small : g < 65536) : group? (Numeral.hexadecimal g) = some (pair g) := by
  have read : Numeral.read? 16 (Numeral.hexadecimal g) = some g :=
    Numeral.read?_toDigits (by decide) (by decide) g
  have short : (Numeral.hexadecimal g).length ≤ 4 :=
    (Nat.length_toDigits_le_iff (by decide) (by decide)).mpr small
  simp only [group?, read, if_pos short]
  rfl

theorem group?_dotted (octets : Octets 4) : group? (DottedQuad.write octets) = none := by
  have unread : Numeral.read? 16 (DottedQuad.write octets) = none :=
    Numeral.read?_of_foreign (DottedQuad.point_mem_write octets) (by decide)
  simp only [group?, unread]

theorem last?_hexadecimal (small : g < 65536) : last? (Numeral.hexadecimal g) = some (pair g) := by
  simp only [last?, group?_hexadecimal small]

theorem last?_dotted (octets : Octets 4) :
    last? (DottedQuad.write octets) = some octets.toList := by
  simp only [last?, group?_dotted, DottedQuad.read?_write, Option.map_some]

theorem parts?_cons {quad : Bool} {part : List Char} {rest : List (List Char)}
    {bytes : List UInt8} (read : group? part = some bytes) (more : rest ≠ []) :
    parts? quad (part :: rest) = (parts? quad rest).map (bytes ++ ·) := by
  cases rest with
  | nil => exact absurd rfl more
  | cons next rest =>
    rw [parts?, read]
    · cases parts? quad (next :: rest) <;> rfl
    · exact more

theorem parts?_hexadecimal (quad : Bool) (small : ∀ g ∈ gs, g < 65536) :
    parts? quad (gs.map Numeral.hexadecimal) = some (gs.flatMap pair) := by
  induction gs with
  | nil => rfl
  | cons g gs ih =>
    have first := small g List.mem_cons_self
    have others := ih fun g member => small g (List.mem_cons_of_mem _ member)
    cases gs with
    | nil => cases quad <;> simp [parts?, last?_hexadecimal first, group?_hexadecimal first]
    | cons next gs =>
      rw [List.map_cons, parts?_cons (group?_hexadecimal first) (by simp), others]
      rfl

/-- The dotted quad is the last part. -/
theorem parts?_dotted (small : ∀ g ∈ gs, g < 65536) (octets : Octets 4) :
    parts? true (gs.map Numeral.hexadecimal ++ [DottedQuad.write octets]) =
      some (gs.flatMap pair ++ octets.toList) := by
  induction gs with
  | nil => simp [parts?, last?_dotted]
  | cons g gs ih =>
    have first := small g List.mem_cons_self
    have others := ih fun g member => small g (List.mem_cons_of_mem _ member)
    rw [List.map_cons, List.cons_append, parts?_cons (group?_hexadecimal first) (by simp), others]
    simp

theorem clean_hexadecimal (gs : List Nat) : Clean (gs.map Numeral.hexadecimal) := by
  intro text member
  obtain ⟨g, _, rfl⟩ := List.mem_map.mp member
  exact ⟨Nat.toDigits_ne_nil, Numeral.not_mem_toDigits (by decide) (by decide) (by decide)⟩

theorem clean_dotted (octets : Octets 4) : Clean [DottedQuad.write octets] := by
  intro text member
  rw [List.mem_singleton.mp member]
  exact ⟨List.ne_nil_of_mem (DottedQuad.point_mem_write octets),
    DottedQuad.colon_not_mem_write octets⟩

/-- The parts of a text before the zero run is left out. -/
def allParts (style : Style) (octets : Octets 16) : List (List Char) :=
  if style.endsDotted (groups octets.toList) then
    ((groups octets.toList).take 6).map Numeral.hexadecimal ++
      [DottedQuad.write octets.lastFour]
  else (groups octets.toList).map Numeral.hexadecimal

theorem clean_allParts (style : Style) (octets : Octets 16) : Clean (allParts style octets) := by
  unfold allParts
  split
  · exact (clean_hexadecimal _).append (clean_dotted _)
  · exact clean_hexadecimal _

theorem endsDotted_run (found : longestZeroRun gs = (start, length))
    (dotted : style.endsDotted gs = true) : start = 0 ∧ (length = 5 ∨ length = 6) := by
  unfold Style.endsDotted at dotted
  rw [found] at dotted
  split at dotted
  · rename_i run
    cases run
    exact ⟨rfl, .inl rfl⟩
  · rename_i run
    cases run
    exact ⟨rfl, .inr rfl⟩
  · cases dotted

theorem write_eq_joined (found : longestZeroRun (groups octets.toList) = (start, length))
    (few : length < 2) :
    write style octets =
      Text.joined [':'] ((groups octets.toList).map Numeral.hexadecimal) := by
  have plain : ¬ style.endsDotted (groups octets.toList) = true := by
    intro dotted
    have run := endsDotted_run found dotted
    omega
  simp only [write, found, if_pos few, if_neg plain]

theorem write_eq_elided (found : longestZeroRun (groups octets.toList) = (start, length))
    (many : ¬ length < 2) :
    write style octets =
      Text.joined [':'] ((allParts style octets).take start) ++
        ':' :: ':' :: Text.joined [':'] ((allParts style octets).drop (start + length)) := by
  simp only [write, found, if_neg many, allParts, List.append_assoc]
  rfl

theorem parts?_front (found : longestZeroRun (groups octets.toList) = (start, length)) :
    parts? false ((allParts style octets).take start) =
      some (((groups octets.toList).take start).flatMap pair) := by
  unfold allParts
  split
  · rename_i dotted
    rw [(endsDotted_run found dotted).1]
    rfl
  · rw [← List.map_take]
    exact parts?_hexadecimal false fun g member => groups_lt _ g (List.mem_of_mem_take member)

/-- The dotted quad stands for the last two groups. -/
theorem toList_lastFour (octets : Octets 16) :
    octets.lastFour.toList = ((groups octets.toList).drop 6).flatMap pair := by
  have even : (octets.toList.drop (2 * 6)).length % 2 = 0 := by
    rw [List.length_drop, Vector.length_toList]
  rw [← groups_drop, flatMap_pair_groups _ even, Octets.lastFour, Vector.toList_cast,
    Vector.toList_drop]

theorem parts?_dotted_drop {n : Nat} (small : ∀ g ∈ gs, g < 65536)
    (within : n ≤ (gs.take 6).length) (quad : Octets 4)
    (tail : quad.toList = (gs.drop 6).flatMap pair) :
    parts? true (((gs.take 6).map Numeral.hexadecimal ++ [DottedQuad.write quad]).drop n) =
      some ((gs.drop n).flatMap pair) := by
  have inside : ∀ g ∈ (gs.take 6).drop n, g < 65536 := fun g member =>
    small g (List.mem_of_mem_take (List.mem_of_mem_drop member))
  have rest : gs.drop n = (gs.take 6).drop n ++ gs.drop 6 :=
    calc gs.drop n = (gs.take 6 ++ gs.drop 6).drop n := by rw [List.take_append_drop]
      _ = (gs.take 6).drop n ++ gs.drop 6 := List.drop_append_of_le_length within
  rw [List.drop_append_of_le_length (by rw [List.length_map]; exact within), ← List.map_drop,
    parts?_dotted inside, tail, rest, List.flatMap_append]

theorem parts?_back (found : longestZeroRun (groups octets.toList) = (start, length)) :
    parts? true ((allParts style octets).drop (start + length)) =
      some (((groups octets.toList).drop (start + length)).flatMap pair) := by
  have small := groups_lt octets.toList
  unfold allParts
  split
  · rename_i dotted
    have run := endsDotted_run found dotted
    have six : ((groups octets.toList).take 6).length = 6 := by
      rw [List.length_take, length_groups, Vector.length_toList]
      rfl
    exact parts?_dotted_drop small (by omega) _ (toList_lastFour octets)
  · rw [← List.map_drop]
    exact parts?_hexadecimal true fun g member => small g (List.mem_of_mem_drop member)

theorem length_groups_octets (octets : Octets 16) : (groups octets.toList).length = 8 := by
  rw [length_groups, Vector.length_toList]

theorem flatMap_pair_octets (octets : Octets 16) :
    (groups octets.toList).flatMap pair = octets.toList := by
  apply flatMap_pair_groups
  rw [Vector.length_toList]

theorem read?_joined (octets : Octets 16) :
    read? (Text.joined [':'] ((groups octets.toList).map Numeral.hexadecimal)) = some octets := by
  have clean := clean_hexadecimal (groups octets.toList)
  rw [read?, splitAtElision_whole clean]
  simp only [side?_joined true clean, parts?_hexadecimal true (groups_lt octets.toList)]
  rw [flatMap_pair_octets]
  exact Octets.ofList?_toList octets

theorem length_around_run (run : ZeroRun (groups octets.toList) start length) :
    (((groups octets.toList).take start).flatMap pair).length +
      (((groups octets.toList).drop (start + length)).flatMap pair).length = 16 - 2 * length := by
  have within := run.within
  rw [length_flatMap_pair, length_flatMap_pair, List.length_take, List.length_drop]
  rw [length_groups_octets] at *
  omega

theorem fill_run (run : ZeroRun (groups octets.toList) start length) :
    ((groups octets.toList).take start).flatMap pair ++ List.replicate (2 * length) 0 ++
      ((groups octets.toList).drop (start + length)).flatMap pair = octets.toList := by
  rw [← pair_zero, ← List.flatMap_append, ← List.flatMap_append, run.parts, flatMap_pair_octets]

/-- What is left out between the two sides of a double colon is filled in again with zeros. -/
theorem read?_elided (found : longestZeroRun (groups octets.toList) = (start, length))
    (many : ¬ length < 2) : read? (write style octets) = some octets := by
  have run := longestZeroRun_run found
  have clean := clean_allParts style octets
  have within := run.within
  rw [length_groups_octets] at within
  have zeros : 16 - (16 - 2 * length) = 2 * length := by omega
  rw [read?, write_eq_elided found many, splitAtElision_elided (clean.take _)]
  simp only [side?_joined _ (clean.take _), side?_joined _ (clean.drop _), parts?_front found,
    parts?_back found, length_around_run run, zeros, fill_run run]
  rw [if_pos (by omega)]
  exact Octets.ofList?_toList octets

theorem read?_write (style : Style) (octets : Octets 16) :
    read? (write style octets) = some octets := by
  cases found : longestZeroRun (groups octets.toList) with
  | mk start length =>
    by_cases few : length < 2
    · rw [write_eq_joined found few]
      exact read?_joined octets
    · exact read?_elided found few

end HostNet.ColonGroups
