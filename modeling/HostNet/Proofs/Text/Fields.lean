import HostNet.Text.Fields

/-!
Joining and dividing undo one another: fields without the separator come back as they were joined,
and a mark that does not occur before it is the first one.
-/

namespace HostNet.Text

variable {separator mark c : Char} {field before after cs : List Char} {parts : List (List Char)}

theorem fields_of_not_mem (absent : separator ∉ field) : fields separator field = [field] := by
  induction field with
  | nil => rfl
  | cons c cs ih =>
    rw [List.mem_cons, not_or] at absent
    rw [fields, if_neg (Ne.symm absent.1), ih absent.2]

theorem fields_append (absent : separator ∉ field) (rest : List Char) :
    fields separator (field ++ separator :: rest) = field :: fields separator rest := by
  induction field with
  | nil => rw [List.nil_append, fields, if_pos rfl]
  | cons c cs ih =>
    rw [List.mem_cons, not_or] at absent
    rw [List.cons_append, fields, if_neg (Ne.symm absent.1), ih absent.2]

theorem fields_joined (present : parts ≠ []) (absent : ∀ part ∈ parts, separator ∉ part) :
    fields separator (joined [separator] parts) = parts := by
  induction parts with
  | nil => exact absurd rfl present
  | cons part rest ih =>
    have first := absent part List.mem_cons_self
    cases rest with
    | nil => exact fields_of_not_mem first
    | cons next rest =>
      have others := ih (List.cons_ne_nil _ _) fun part member =>
        absent part (List.mem_cons_of_mem _ member)
      rw [joined, List.append_assoc, List.singleton_append, fields_append first, others]

theorem fields_ne_nil (separator : Char) (cs : List Char) : fields separator cs ≠ [] := by
  fun_cases fields separator cs <;> exact List.cons_ne_nil _ _

theorem joined_cons_cons (c : Char) (field : List Char) (rest : List (List Char)) :
    joined [separator] ((c :: field) :: rest) = c :: joined [separator] (field :: rest) := by
  cases rest <;> rfl

theorem joined_fields (separator : Char) (cs : List Char) :
    joined [separator] (fields separator cs) = cs := by
  fun_induction fields separator cs with
  | case1 => rfl
  | case2 cs ih =>
    obtain ⟨field, rest, split⟩ := List.exists_cons_of_ne_nil (fields_ne_nil separator cs)
    rw [split] at ih ⊢
    rw [joined, ih]
    rfl
  | case3 c cs _ none => exact absurd none (fields_ne_nil separator cs)
  | case4 c cs _ field rest split ih =>
    rw [split] at ih
    rw [joined_cons_cons, ih]

theorem exists_field_of_mem (differs : c ≠ separator) (member : c ∈ cs) :
    ∃ field ∈ fields separator cs, c ∈ field := by
  fun_induction fields separator cs with
  | case1 => cases member
  | case2 cs ih =>
    rcases List.mem_cons.mp member with same | member
    · exact absurd same differs
    · obtain ⟨field, present, inside⟩ := ih member
      exact ⟨field, List.mem_cons_of_mem _ present, inside⟩
  | case3 first cs _ none ih =>
    rcases List.mem_cons.mp member with rfl | member
    · exact ⟨_, List.mem_singleton_self _, List.mem_singleton_self _⟩
    · obtain ⟨field, present, _⟩ := ih member
      rw [none] at present
      cases present
  | case4 first cs _ field others split ih =>
    rcases List.mem_cons.mp member with rfl | member
    · exact ⟨_, List.mem_cons_self, List.mem_cons_self⟩
    · obtain ⟨found, present, inside⟩ := ih member
      rw [split] at present
      rcases List.mem_cons.mp present with rfl | present
      · exact ⟨_, List.mem_cons_self, List.mem_cons_of_mem _ inside⟩
      · exact ⟨found, List.mem_cons_of_mem _ present, inside⟩

theorem splitAtFirst_append (absent : mark ∉ before) (after : List Char) :
    splitAtFirst mark (before ++ mark :: after) = some (before, after) := by
  induction before with
  | nil => rw [List.nil_append, splitAtFirst, if_pos rfl]
  | cons c cs ih =>
    rw [List.mem_cons, not_or] at absent
    rw [List.cons_append, splitAtFirst, if_neg (Ne.symm absent.1), ih absent.2]
    rfl

theorem splitAtFirst_of_not_mem (absent : mark ∉ cs) : splitAtFirst mark cs = none := by
  induction cs with
  | nil => rfl
  | cons c cs ih =>
    rw [List.mem_cons, not_or] at absent
    rw [splitAtFirst, if_neg (Ne.symm absent.1), ih absent.2]
    rfl

/-- Where a mark does not occur again, what stands before it and behind it can be told. -/
theorem append_mark_inj {left right : List Char} (absent : mark ∉ after) (missing : mark ∉ right)
    (same : before ++ mark :: after = left ++ mark :: right) : before = left ∧ after = right := by
  -- The last mark is the first one from behind.
  have reversed : after.reverse ++ mark :: before.reverse = right.reverse ++ mark :: left.reverse := by
    simpa using congrArg List.reverse same
  have split : splitAtFirst mark (after.reverse ++ mark :: before.reverse) =
      some (after.reverse, before.reverse) :=
    splitAtFirst_append (by simpa using absent) _
  have other : splitAtFirst mark (right.reverse ++ mark :: left.reverse) =
      some (right.reverse, left.reverse) :=
    splitAtFirst_append (by simpa using missing) _
  rw [reversed, other] at split
  obtain ⟨backs, fronts⟩ := Prod.mk.inj (Option.some.inj split)
  exact ⟨(List.reverse_inj.mp fronts).symm, (List.reverse_inj.mp backs).symm⟩

theorem mem_joined {between : List Char} (member : c ∈ joined between parts) :
    c ∈ between ∨ ∃ part ∈ parts, c ∈ part := by
  fun_induction joined between parts with
  | case1 => cases member
  | case2 part => exact .inr ⟨part, List.mem_singleton_self part, member⟩
  | case3 part next rest ih =>
    simp only [List.mem_append] at member
    rcases member with (member | member) | member
    · exact .inr ⟨part, List.mem_cons_self, member⟩
    · exact .inl member
    · rcases ih member with member | ⟨other, present, member⟩
      · exact .inl member
      · exact .inr ⟨other, List.mem_cons_of_mem _ present, member⟩

theorem separator_mem_joined (several : 1 < parts.length) :
    separator ∈ joined [separator] parts := by
  match parts with
  | [] => cases several
  | [part] => exact absurd several (Nat.lt_irrefl 1)
  | part :: next :: rest => simp [joined]

theorem length_joined_le (separator : Char) (width : Nat)
    (narrow : ∀ part ∈ parts, part.length ≤ width) :
    (joined [separator] parts).length ≤ parts.length * (width + 1) - 1 := by
  induction parts with
  | nil => exact Nat.zero_le _
  | cons part rest ih =>
    have first := narrow part List.mem_cons_self
    cases rest with
    | nil => simp only [joined, List.length_singleton]; omega
    | cons next rest =>
      have others := ih fun part member => narrow part (List.mem_cons_of_mem _ member)
      simp only [List.length_cons, Nat.succ_mul] at others ⊢
      simp only [joined, List.length_append, List.length_singleton]
      omega

end HostNet.Text
