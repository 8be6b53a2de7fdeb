import Mathlib.Algebra.Group.Nat.Defs
import Mathlib.Data.List.Forall2
import Mathlib.Data.List.Induction
import HostNet.Proofs.Text.Numeral

/-!
What a numeral denotes, apart from how it is read. The reader accepts digits of either case, one or
more, and gives the number that they denote in positional notation.
-/

namespace HostNet

section Readings

variable {α β : Type} {read : α → Option β} {items : List α} {found : List β}

theorem mapM_eq_some_iff :
    items.mapM read = some found ↔
      List.Forall₂ (fun item value => read item = some value) items found := by
  induction items generalizing found with
  | nil => simp [eq_comm]
  | cons item rest ih =>
    rw [List.mapM_cons]
    constructor
    · intro all
      obtain ⟨value, first, all⟩ := Option.bind_eq_some_iff.mp all
      obtain ⟨values, others, all⟩ := Option.bind_eq_some_iff.mp all
      cases all
      exact .cons first (ih.mp others)
    · intro each
      cases each with
      | cons first others =>
        rw [first, ih.mpr others]
        rfl

end Readings

namespace Numeral

variable {base n d : Nat} {c : Char} {cs : List Char} {values : List Nat}

/-- A digit, in lower or in upper case, and its value. -/
def Digit (base : Nat) (c : Char) (d : Nat) : Prop :=
  d < base ∧ (c = Nat.digitChar d ∨ c = (Nat.digitChar d).toUpper)

/-- One or more digits and the number they denote. Each further digit counts for `base` times less
than the one before it. -/
inductive Denotes (base : Nat) : List Char → Nat → Prop
  | one {c : Char} {d : Nat} : Digit base c d → Denotes base [c] d
  | more {cs : List Char} {c : Char} {n d : Nat} :
    Denotes base cs n → Digit base c d → Denotes base (cs ++ [c]) (n * base + d)

/-! ### Single digits -/

/-- Where a digit stands among the characters: figures from 48 on, capital letters from 65 on, small
ones from 97 on. -/
def Code (c : Char) (d : Nat) : Prop :=
  (d < 10 ∧ c.toNat = 48 + d) ∨ (10 ≤ d ∧ d < 16 ∧ (c.toNat = 87 + d ∨ c.toNat = 55 + d))

theorem toNat_digitChar_of_letter (least : 10 ≤ d) (small : d < 16) :
    (Nat.digitChar d).toNat = 87 + d ∧ (Nat.digitChar d).toUpper.toNat = 55 + d := by
  have cases : d = 10 ∨ d = 11 ∨ d = 12 ∨ d = 13 ∨ d = 14 ∨ d = 15 := by omega
  rcases cases with rfl | rfl | rfl | rfl | rfl | rfl <;> exact ⟨rfl, rfl⟩

theorem toUpper_digitChar_of_figure (small : d < 10) :
    (Nat.digitChar d).toUpper = Nat.digitChar d := by
  have figures : ∀ d < 10, (Nat.digitChar d).toUpper = Nat.digitChar d := by decide
  exact figures d small

theorem digit_iff_code (bounded : base ≤ 16) : Digit base c d ↔ d < base ∧ Code c d := by
  refine and_congr_right fun small => ?_
  rw [← Char.toNat_inj, ← Char.toNat_inj, Code]
  by_cases figure : d < 10
  · rw [toUpper_digitChar_of_figure figure, Nat.toNat_digitChar_of_lt_ten figure]
    omega
  · obtain ⟨lower, upper⟩ := toNat_digitChar_of_letter (d := d) (by omega) (by omega)
    rw [lower, upper]
    omega

theorem digit?_eq_some_iff_code : digit? base c = some d ↔ d < base ∧ Code c d := by
  have figures : c.isDigit = true ↔ 48 ≤ c.toNat ∧ c.toNat ≤ 57 := Char.isDigit_iff_toNat
  have small : 'a' ≤ c ∧ c ≤ 'f' ↔ 97 ≤ c.toNat ∧ c.toNat ≤ 102 := Iff.rfl
  have capital : 'A' ≤ c ∧ c ≤ 'F' ↔ 65 ≤ c.toNat ∧ c.toNat ≤ 70 := Iff.rfl
  have zero : '0'.toNat = 48 := rfl
  have a : 'a'.toNat = 97 := rfl
  have A : 'A'.toNat = 65 := rfl
  simp only [digit?, figures, small, capital, zero, a, A, Code, Option.ite_none_right_eq_some,
    Option.some.injEq]
  split_ifs <;> omega

/-- The reader of digits knows the digits and no other character. -/
theorem digit?_eq_some_iff (bounded : base ≤ 16) : digit? base c = some d ↔ Digit base c d :=
  digit?_eq_some_iff_code.trans (digit_iff_code bounded).symm

/-! ### Numerals -/

theorem denotes_of_digits (bounded : base ≤ 16) (present : cs ≠ [])
    (read : cs.mapM (digit? base) = some values) : Denotes base cs (ofDigits base values) := by
  induction cs using List.reverseRecOn generalizing values with
  | nil => exact absurd rfl present
  | append_singleton front c ih =>
    rw [List.mapM_append] at read
    obtain ⟨before, readFront, read⟩ := Option.bind_eq_some_iff.mp read
    obtain ⟨last, readLast, read⟩ := Option.bind_eq_some_iff.mp read
    rw [List.mapM_cons] at readLast
    obtain ⟨d, readDigit, readLast⟩ := Option.bind_eq_some_iff.mp readLast
    cases readLast
    cases read
    have digit := (digit?_eq_some_iff bounded).mp readDigit
    change Denotes base (front ++ [c]) (ofDigits base (before ++ [d]))
    rw [ofDigits_append_one]
    cases front with
    | nil =>
      cases readFront
      simpa [ofDigits] using Denotes.one digit
    | cons first front => exact .more (ih (List.cons_ne_nil _ _) readFront) digit

theorem exists_digits_of_denotes (bounded : base ≤ 16) (denotes : Denotes base cs n) :
    cs ≠ [] ∧ ∃ values, cs.mapM (digit? base) = some values ∧ ofDigits base values = n := by
  induction denotes with
  | @one c d digit =>
    refine ⟨List.cons_ne_nil _ _, [d], ?_, by simp [ofDigits]⟩
    rw [List.mapM_cons, (digit?_eq_some_iff bounded).mpr digit]
    rfl
  | @more cs c n d _ digit ih =>
    obtain ⟨_, values, read, value⟩ := ih
    refine ⟨by simp, values ++ [d], ?_, by rw [ofDigits_append_one, value]⟩
    rw [List.mapM_append, read, List.mapM_cons, (digit?_eq_some_iff bounded).mpr digit]
    rfl

/-- What is read as a numeral is a numeral, and the number is the one it denotes. -/
theorem read?_eq_some_iff (bounded : base ≤ 16) : read? base cs = some n ↔ Denotes base cs n := by
  constructor
  · intro read
    unfold read? at read
    split at read
    · cases read
    · rename_i present
      obtain ⟨values, digits, rfl⟩ := Option.map_eq_some_iff.mp read
      exact denotes_of_digits bounded (by simpa using present) digits
  · intro denotes
    obtain ⟨present, values, digits, rfl⟩ := exists_digits_of_denotes bounded denotes
    have nonempty : cs.isEmpty = false := by simpa using present
    rw [read?, nonempty, digits]
    rfl

theorem Denotes.lt_pow (denotes : Denotes base cs n) : n < base ^ cs.length := by
  induction denotes with
  | one digit => simpa using digit.1
  | @more cs c n d _ digit ih =>
    have small : d < base := digit.1
    calc n * base + d < n * base + base := by omega
      _ = (n + 1) * base := by rw [Nat.succ_mul]
      _ ≤ base ^ cs.length * base := Nat.mul_le_mul_right base ih
      _ = base ^ (cs ++ [c]).length := by
        rw [List.length_append, List.length_singleton, Nat.pow_succ]

theorem Denotes.not_mem (denotes : Denotes base cs n) (bounded : base ≤ 16)
    (foreign : digit? base c = none) : c ∉ cs := by
  intro member
  have refused := read?_of_foreign member foreign
  rw [(read?_eq_some_iff bounded).mpr denotes] at refused
  cases refused

theorem Denotes.ne_nil (denotes : Denotes base cs n) : cs ≠ [] := by
  cases denotes <;> simp

end Numeral

end HostNet
