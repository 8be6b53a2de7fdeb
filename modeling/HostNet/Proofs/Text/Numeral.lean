import HostNet.Text.Numeral

/-!
Numerals read back. What `Nat.toDigits` writes in a base up to sixteen consists of digits, has no
leading zero, is no longer than its value allows, and is read as the number it was written for.
-/

namespace HostNet

theorem mapM_eq_none_of_mem {α β : Type} {read : α → Option β} {items : List α} {item : α}
    (member : item ∈ items) (refused : read item = none) : items.mapM read = none := by
  induction items with
  | nil => cases member
  | cons first rest ih =>
    rw [List.mapM_cons]
    rcases List.mem_cons.mp member with rfl | member
    · rw [refused]
      rfl
    · rw [ih member]
      cases read first <;> rfl

namespace Numeral

variable {base n d : Nat} {c : Char}

theorem digit?_digitChar (small : d < base) (bounded : base ≤ 16) :
    digit? base (Nat.digitChar d) = some d := by
  have cases : d < 10 ∨ d = 10 ∨ d = 11 ∨ d = 12 ∨ d = 13 ∨ d = 14 ∨ d = 15 := by omega
  rcases cases with below | rfl | rfl | rfl | rfl | rfl | rfl
  · have value := Nat.toNat_digitChar_sub_48_of_lt_ten below
    simp [digit?, Nat.isDigit_digitChar, below, value, small]
  all_goals simp [digit?, Nat.digitChar, small]

theorem ofDigits_append_one (digits : List Nat) (d : Nat) :
    ofDigits base (digits ++ [d]) = ofDigits base digits * base + d := by
  simp only [ofDigits, List.foldl_append, List.foldl_cons, List.foldl_nil]

/-- Induction on the last digit, which is how digits are written. -/
theorem mapM_digit?_toDigits (large : 1 < base) (bounded : base ≤ 16) (n : Nat) :
    ∃ digits, (Nat.toDigits base n).mapM (digit? base) = some digits ∧ ofDigits base digits = n := by
  induction n using Nat.base_induction base large with
  | single d small =>
    refine ⟨[d], ?_, by simp [ofDigits]⟩
    simp [Nat.toDigits_of_lt_base small, digit?_digitChar small bounded]
  | digit m d small positive ih =>
    obtain ⟨digits, read, value⟩ := ih
    refine ⟨digits ++ [d], ?_, by rw [ofDigits_append_one, value, Nat.mul_comm]⟩
    rw [← Nat.toDigits_append_toDigits large positive small, List.mapM_append, read,
      Nat.toDigits_of_lt_base small]
    simp [digit?_digitChar small bounded]

theorem read?_toDigits (large : 1 < base) (bounded : base ≤ 16) (n : Nat) :
    read? base (Nat.toDigits base n) = some n := by
  obtain ⟨digits, read, value⟩ := mapM_digit?_toDigits large bounded n
  have nonempty : (Nat.toDigits base n).isEmpty = false := by
    simp [Nat.toDigits_ne_nil]
  simp only [read?, nonempty, read, Option.map_some, value]
  rfl

theorem read?_of_foreign {cs : List Char} (member : c ∈ cs) (foreign : digit? base c = none) :
    read? base cs = none := by
  rw [read?, mapM_eq_none_of_mem member foreign]
  split <;> rfl

theorem exists_digitChar_of_mem_toDigits (large : 1 < base)
    (member : c ∈ Nat.toDigits base n) : ∃ d, d < base ∧ c = Nat.digitChar d := by
  induction n using Nat.base_induction base large with
  | single d small =>
    rw [Nat.toDigits_of_lt_base small, List.mem_singleton] at member
    exact ⟨d, small, member⟩
  | digit m d small positive ih =>
    rw [← Nat.toDigits_append_toDigits large positive small, List.mem_append,
      Nat.toDigits_of_lt_base small, List.mem_singleton] at member
    rcases member with member | member
    · exact ih member
    · exact ⟨d, small, member⟩

theorem not_mem_toDigits (large : 1 < base) (bounded : base ≤ 16)
    (foreign : ∀ d, d < 16 → c ≠ Nat.digitChar d) : c ∉ Nat.toDigits base n := by
  intro member
  obtain ⟨d, small, written⟩ := exists_digitChar_of_mem_toDigits large member
  exact foreign d (by omega) written

/-- The first digit is zero for zero alone. -/
theorem length_of_head_zero (large : 1 < base) (zero : (Nat.toDigits base n).head? = some '0') :
    (Nat.toDigits base n).length = 1 := by
  have value : n = 0 := by
    induction n using Nat.base_induction base large with
    | single d small => simpa [Nat.toDigits_of_lt_base small] using zero
    | digit m d small positive ih =>
      rw [← Nat.toDigits_append_toDigits large positive small, List.head?_append] at zero
      cases first : (Nat.toDigits base m).head? with
      | none => simp at first
      | some c =>
        rw [first] at zero
        have none := ih (first.trans zero)
        omega
  rw [value, Nat.toDigits_zero]
  rfl

theorem decimal_inj {m n : Nat} (same : decimal m = decimal n) : m = n := by
  have first : read? 10 (decimal m) = some m := read?_toDigits (by decide) (by decide) m
  have second : read? 10 (decimal n) = some n := read?_toDigits (by decide) (by decide) n
  rw [same, second] at first
  exact (Option.some.inj first).symm

theorem takeWhile_decimal_append (n : Nat) {rest : List Char}
    (ends : ∀ c ∈ rest.head?, c.isDigit = false) :
    (decimal n ++ rest).takeWhile Char.isDigit = decimal n := by
  have digits : ∀ c ∈ decimal n, c.isDigit = true :=
    fun _ member => Nat.isDigit_of_mem_toDigits (by decide) (by decide) member
  have none : rest.takeWhile Char.isDigit = [] := by
    cases rest with
    | nil => rfl
    | cons c rest => simp [ends c rfl]
  rw [List.takeWhile_append_of_pos digits, none, List.append_nil]

/-- Where no digit follows a number, both can be told from the text. -/
theorem decimal_append_inj {m n : Nat} {rest others : List Char}
    (ends : ∀ c ∈ rest.head?, c.isDigit = false) (stops : ∀ c ∈ others.head?, c.isDigit = false)
    (same : decimal m ++ rest = decimal n ++ others) : m = n ∧ rest = others := by
  have digits : decimal m = decimal n := by
    rw [← takeWhile_decimal_append m ends, same, takeWhile_decimal_append n stops]
  have numbers := decimal_inj digits
  rw [digits] at same
  exact ⟨numbers, List.append_cancel_left same⟩

end Numeral

end HostNet
