import HostNet.Address.Presentation
import HostNet.Proofs.Address.Alphabet

/-!
A character that is neither a hexadecimal digit nor a dot nor a colon makes every reader of addresses
refuse the text that it stands in.
-/

namespace HostNet

variable {c : Char} {cs : List Char}

theorem DottedQuad.read?_of_foreign (point : c ≠ '.') (foreign : Numeral.digit? 10 c = none)
    (member : c ∈ cs) : read? cs = none := by
  obtain ⟨field, present, inside⟩ := Text.exists_field_of_mem point member
  have refused : octet? field = none := by
    rw [octet?, Numeral.read?_of_foreign inside foreign]
  rw [read?, mapM_eq_none_of_mem present refused]
  rfl

namespace ColonGroups

/-- Neither a digit of an address nor a mark between its parts. -/
structure Foreign (c : Char) : Prop where
  colon : c ≠ ':'
  point : c ≠ '.'
  decimal : Numeral.digit? 10 c = none
  hexadecimal : Numeral.digit? 16 c = none

theorem group?_of_foreign (foreign : Foreign c) (member : c ∈ cs) : group? cs = none := by
  rw [group?, Numeral.read?_of_foreign member foreign.hexadecimal]

theorem last?_of_foreign (foreign : Foreign c) (member : c ∈ cs) : last? cs = none := by
  rw [last?, group?_of_foreign foreign member]
  simp only [DottedQuad.read?_of_foreign foreign.point foreign.decimal member, Option.map_none]

theorem parts?_of_foreign {quad : Bool} {parts : List (List Char)} {part : List Char}
    (foreign : Foreign c) (present : part ∈ parts) (member : c ∈ part) :
    parts? quad parts = none := by
  fun_induction parts? quad parts with
  | case1 => cases present
  | case2 only =>
    rw [List.mem_singleton.mp present] at member
    exact last?_of_foreign foreign member
  | case3 only =>
    rw [List.mem_singleton.mp present] at member
    exact group?_of_foreign foreign member
  | case4 first rest _ octets others readRest readFirst ih =>
    rcases List.mem_cons.mp present with rfl | present
    · rw [group?_of_foreign foreign member] at readFirst
      cases readFirst
    · rw [ih present] at readRest
      cases readRest
  | case5 => rfl

theorem side?_of_foreign {quad : Bool} (foreign : Foreign c) (member : c ∈ cs) :
    side? quad cs = none := by
  obtain ⟨field, present, inside⟩ := Text.exists_field_of_mem foreign.colon member
  have written : cs.isEmpty = false := by
    cases cs with
    | nil => cases member
    | cons => rfl
  rw [side?, written]
  exact parts?_of_foreign foreign present inside

theorem splitAtElision_eq_some {before after : List Char}
    (split : splitAtElision cs = some (before, after)) : cs = before ++ ':' :: ':' :: after := by
  fun_induction splitAtElision cs generalizing before after with
  | case1 rest => cases split; rfl
  | case2 first rest _ ih =>
    obtain ⟨⟨front, back⟩, found, same⟩ := Option.map_eq_some_iff.mp split
    cases same
    rw [ih found]
    rfl
  | case3 => cases split

theorem read?_of_foreign (foreign : Foreign c) (member : c ∈ cs) : read? cs = none := by
  unfold read?
  split
  · rw [side?_of_foreign foreign member]
    rfl
  · rename_i before after split
    rw [splitAtElision_eq_some split] at member
    simp only [List.mem_append, List.mem_cons, foreign.colon, false_or] at member
    rcases member with member | member
    · rw [side?_of_foreign foreign member]
    · rw [side?_of_foreign foreign member]
      cases side? false before <;> rfl

theorem foreign_percent : Foreign '%' where
  colon := by decide
  point := by decide
  decimal := by decide
  hexadecimal := by decide

end ColonGroups

end HostNet
