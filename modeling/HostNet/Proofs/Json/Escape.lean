import HostNet.Json.Lexer
import HostNet.Proofs.Text.Numeral

/-!
Escaped texts. What is written for a character is read as one piece, whatever comes after it, and the
pieces of a text stand for its characters again.
-/

namespace HostNet.Json

variable {c letter : Char}

/-- The piece that the escape of a character is read as. -/
def pieceOf (c : Char) : Piece :=
  if (shortEscapes.find? (·.2 = c)).isSome then .char c
  else if c.toNat < 0x20 then .unit c.toNat
  else .char c

def withPiece (p : Piece) (read : List Piece × List Char) : List Piece × List Char :=
  (p :: read.1, read.2)

theorem readableEscapes_lookup : ∀ p ∈ shortEscapes, readableEscapes.lookup p.1 = some p.2 := by
  decide

theorem letter_ne_u : ∀ p ∈ shortEscapes, p.1 ≠ 'u' := by
  decide

theorem pieces?_letter (known : (letter, c) ∈ shortEscapes) (rest : List Char) :
    pieces? ('\\' :: letter :: rest) = (pieces? rest).map (withPiece (.char c)) := by
  have found : readableEscapes.lookup letter = some c := readableEscapes_lookup _ known
  have letterNotU : letter ≠ 'u' := letter_ne_u _ known
  rw [pieces?, found]
  · cases pieces? rest <;> rfl
  · intro a b c d rest same
    exact absurd same letterNotU

/-- A control character without a letter is given by two zeros and two digits. -/
theorem read?_control (control : c.toNat < 0x20) :
    Numeral.read? 16
      ['0', '0', Nat.digitChar (c.toNat / 16), Nat.digitChar (c.toNat % 16)] = some c.toNat := by
  have high : Numeral.digit? 16 (Nat.digitChar (c.toNat / 16)) = some (c.toNat / 16) :=
    Numeral.digit?_digitChar (by omega) (by decide)
  have low : Numeral.digit? 16 (Nat.digitChar (c.toNat % 16)) = some (c.toNat % 16) :=
    Numeral.digit?_digitChar (by omega) (by decide)
  have zero : Numeral.digit? 16 '0' = some 0 := by decide
  have value : c.toNat / 16 * 16 + c.toNat % 16 = c.toNat := Nat.div_add_mod' _ _
  simp [Numeral.read?, zero, high, low, Numeral.ofDigits, value]

theorem pieces?_control (control : c.toNat < 0x20) (rest : List Char) :
    pieces? ('\\' :: 'u' :: '0' :: '0' :: Nat.digitChar (c.toNat / 16) ::
      Nat.digitChar (c.toNat % 16) :: rest) = (pieces? rest).map (withPiece (.unit c.toNat)) := by
  rw [pieces?, read?_control control]
  cases pieces? rest <;> rfl

theorem pieces?_plain (printed : ¬ c.toNat < 0x20) (quote : c ≠ '"') (backslash : c ≠ '\\')
    (rest : List Char) : pieces? (c :: rest) = (pieces? rest).map (withPiece (.char c)) := by
  rw [pieces?]
  · simp only [printed, backslash, decide_false, Bool.or_self, Bool.false_eq_true, if_false]
    rfl
  · exact quote
  · intro a b c d rest same
    exact absurd same backslash
  · intro letter rest same
    exact absurd same backslash

theorem pieces?_escaped_append (c : Char) (rest : List Char) :
    pieces? (escaped c ++ rest) = (pieces? rest).map (withPiece (pieceOf c)) := by
  unfold escaped pieceOf
  split
  · rename_i letter other found
    have known := List.mem_of_find?_eq_some found
    have same := List.find?_some found
    rw [decide_eq_true_eq] at same
    rw [found]
    cases same
    exact pieces?_letter known rest
  · rename_i unknown
    rw [unknown]
    by_cases control : c.toNat < 0x20
    · simp only [if_pos control]
      exact pieces?_control control rest
    · have quote : c ≠ '"' := by
        rintro rfl
        cases unknown
      have backslash : c ≠ '\\' := by
        rintro rfl
        cases unknown
      simp only [if_neg control]
      exact pieces?_plain control quote backslash rest

/-- The text ends at its own closing quote, whatever comes after that. -/
theorem pieces?_escaped (cs after : List Char) :
    pieces? (cs.flatMap escaped ++ '"' :: after) = some (cs.map pieceOf, after) := by
  induction cs with
  | nil => rfl
  | cons c cs ih =>
    rw [List.flatMap_cons, List.append_assoc, pieces?_escaped_append, ih]
    rfl

theorem characters?_unit {n : Nat} (low : n < 0xd800) (ps : List Piece) :
    characters? (.unit n :: ps) = (characters? ps).map (Char.ofNat n :: ·) := by
  have notHigh : isHighSurrogate n = false := by
    simp only [isHighSurrogate, Bool.and_eq_false_iff, decide_eq_false_iff_not]
    omega
  have notLow : isLowSurrogate n = false := by
    simp only [isLowSurrogate, Bool.and_eq_false_iff, decide_eq_false_iff_not]
    omega
  cases ps with
  | nil => simp [characters?, notHigh, notLow]
  | cons p ps => cases p <;> simp [characters?, notHigh, notLow]

theorem characters?_pieceOf (c : Char) (ps : List Piece) :
    characters? (pieceOf c :: ps) = (characters? ps).map (c :: ·) := by
  unfold pieceOf
  split
  · rfl
  · split
    · rename_i control
      rw [characters?_unit (by omega), Char.ofNat_toNat]
    · rfl

theorem characters?_pieces (cs : List Char) : characters? (cs.map pieceOf) = some cs := by
  induction cs with
  | nil => rfl
  | cons c cs ih => rw [List.map_cons, characters?_pieceOf, ih, Option.map_some]

end HostNet.Json
