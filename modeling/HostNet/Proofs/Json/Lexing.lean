import HostNet.Proofs.Json.Escape

/-!
Tokens and their texts. A token is read back from its text in front of anything that does not go on
with a number, so a text of tokens with blanks between them is divided into these tokens.
-/

namespace HostNet.Json

variable {c : Char} {rest text : List Char} {t : Token} {ts : List Token}

/-- A character that goes on with a number. -/
def continuesNumber (c : Char) : Bool :=
  c.isDigit || c = '.' || isExponentMark c

/-- Nothing at the front goes on with a number. -/
def EndsNumber (rest : List Char) : Prop :=
  ∀ c, rest.head? = some c → continuesNumber c = false

theorem EndsNumber.not_digit (ends : EndsNumber (c :: rest)) : c.isDigit = false := by
  have no := ends c rfl
  simp only [continuesNumber, Bool.or_eq_false_iff] at no
  exact no.1.1

theorem EndsNumber.not_point (ends : EndsNumber (c :: rest)) : c ≠ '.' := by
  rintro rfl
  have no := ends '.' rfl
  cases no

theorem EndsNumber.not_mark (ends : EndsNumber (c :: rest)) : isExponentMark c = false := by
  have no := ends c rfl
  simp only [continuesNumber, Bool.or_eq_false_iff] at no
  exact no.2

theorem digits?_append {ds : List Char} (some_digit : ds ≠ []) (digits : ∀ d ∈ ds, d.isDigit = true)
    (ends : EndsNumber rest) : digits? (ds ++ rest) = some (ds, rest) := by
  have untaken : rest.takeWhile Char.isDigit = [] := by
    cases rest with
    | nil => rfl
    | cons c rest => simp [ends.not_digit]
  have undropped : rest.dropWhile Char.isDigit = rest := by
    cases rest with
    | nil => rfl
    | cons c rest => simp [ends.not_digit]
  rw [digits?, List.takeWhile_append_of_pos digits, List.dropWhile_append_of_pos digits, untaken,
    undropped, List.append_nil]
  simp [some_digit]

theorem decimal_digits (n : Nat) : ∀ d ∈ Numeral.decimal n, d.isDigit = true :=
  fun _ member => Nat.isDigit_of_mem_toDigits (by decide) (by decide) member

theorem whole?_decimal (n : Nat) (ends : EndsNumber rest) :
    whole? (Numeral.decimal n ++ rest) = some (Numeral.decimal n, rest) := by
  have digits := decimal_digits n
  have written : Numeral.decimal n ≠ [] := Nat.toDigits_ne_nil
  have single : (Numeral.decimal n).head? = some '0' → (Numeral.decimal n).length = 1 :=
    Numeral.length_of_head_zero (by decide)
  generalize Numeral.decimal n = ds at *
  obtain ⟨first, others, rfl⟩ := List.exists_cons_of_ne_nil written
  by_cases zero : first = '0'
  · subst zero
    have alone := single rfl
    rw [List.length_cons] at alone
    have none : others = [] := List.length_eq_zero_iff.mp (by omega)
    rw [none]
    rfl
  · rw [List.cons_append, whole?]
    · exact digits?_append written digits ends
    · intro after same
      cases same
      exact zero rfl

theorem fraction?_none (ends : EndsNumber rest) : fraction? rest = some ([], rest) := by
  cases rest with
  | nil => rfl
  | cons c rest =>
    rw [fraction?]
    intro after same
    cases same
    exact ends.not_point rfl

theorem exponent?_none (ends : EndsNumber rest) : exponent? rest = some ([], rest) := by
  cases rest with
  | nil => rfl
  | cons c rest => simp [exponent?, ends.not_mark]

theorem unsigned?_decimal (n : Nat) (ends : EndsNumber rest) :
    unsigned? (Numeral.decimal n ++ rest) = some (Numeral.decimal n, rest) := by
  simp only [unsigned?, whole?_decimal n ends, fraction?_none ends, exponent?_none ends,
    Option.map_some, List.append_nil]

theorem token?_digit (digit : c.isDigit = true) (rest : List Char) :
    token? (c :: rest) = (number? (c :: rest)).map fun (lexeme, after) => (.number lexeme, after) := by
  unfold token?
  split <;> first | rfl | (rename_i same; cases same; cases digit)

theorem number?_digit (digit : c.isDigit = true) (rest : List Char) :
    number? (c :: rest) = unsigned? (c :: rest) := by
  unfold number?
  split
  · rename_i same
    cases same
    cases digit
  · rfl

theorem token?_decimal (n : Nat) (ends : EndsNumber rest) :
    token? (Numeral.decimal n ++ rest) = some (.number (Numeral.decimal n), rest) := by
  have read := unsigned?_decimal n ends
  have digits := decimal_digits n
  have written : Numeral.decimal n ≠ [] := Nat.toDigits_ne_nil
  generalize Numeral.decimal n = ds at *
  obtain ⟨first, others, rfl⟩ := List.exists_cons_of_ne_nil written
  have digit := digits first List.mem_cons_self
  rw [List.cons_append] at *
  rw [token?_digit digit, number?_digit digit, read]
  rfl

theorem token?_text (cs rest : List Char) :
    token? ('"' :: cs.flatMap escaped ++ '"' :: rest) = some (.text cs, rest) := by
  rw [List.cons_append, token?, pieces?_escaped, Option.map_some]
  simp only [characters?_pieces]

namespace Token

def isNumber : Token → Bool
  | .number _ => Bool.true
  | _ => Bool.false

/-- A token that has a text of its own. -/
def Written : Token → Prop
  | .number cs => ∃ n, cs = Numeral.decimal n
  | .unpaired => False
  | .garbage => False
  | _ => True

end Token

theorem token?_chars (written : t.Written) (ends : t.isNumber = true → EndsNumber rest) :
    token? (t.chars ++ rest) = some (t, rest) := by
  cases t with
  | opening b => cases b <;> rfl
  | closing b => cases b <;> rfl
  | text cs =>
    rw [Token.chars, List.append_assoc]
    exact token?_text cs rest
  | number cs =>
    obtain ⟨n, rfl⟩ := written
    exact token?_decimal n (ends rfl)
  | unpaired => cases written
  | garbage => cases written
  | _ => rfl

theorem isBlank_of_isDigit (digit : c.isDigit = true) : isBlank c = false := by
  simp only [isBlank, Bool.or_eq_false_iff, decide_eq_false_iff_not]
  refine ⟨⟨⟨?_, ?_⟩, ?_⟩, ?_⟩ <;> (rintro rfl; cases digit)

theorem continuesNumber_of_isBlank (blank : isBlank c = true) : continuesNumber c = false := by
  simp only [isBlank, Bool.or_eq_true, decide_eq_true_eq] at blank
  rcases blank with ((space | tab) | newLine) | carriageReturn
  · subst space
    decide
  · subst tab
    decide
  · subst newLine
    decide
  · subst carriageReturn
    decide

/-- The text of a token starts with no blank, and goes on with no number but as one itself. -/
theorem chars_front (written : t.Written) :
    ∃ c cs, t.chars = c :: cs ∧ isBlank c = false ∧
      (t.isNumber = false → continuesNumber c = false) := by
  cases t with
  | opening b => cases b <;> exact ⟨_, _, rfl, by decide, by decide⟩
  | closing b => cases b <;> exact ⟨_, _, rfl, by decide, by decide⟩
  | text cs => exact ⟨_, _, rfl, by decide, fun _ => by decide⟩
  | number cs =>
    obtain ⟨n, rfl⟩ := written
    have digits := decimal_digits n
    have written : Numeral.decimal n ≠ [] := Nat.toDigits_ne_nil
    obtain ⟨first, others, same⟩ := List.exists_cons_of_ne_nil written
    rw [same] at digits
    have digit := digits first List.mem_cons_self
    exact ⟨first, others, same, isBlank_of_isDigit digit, nofun⟩
  | unpaired => cases written
  | garbage => cases written
  | _ => exact ⟨_, _, rfl, by decide, by decide⟩

/-- Tokens that their texts tell apart: each has one, and no number follows a number. -/
def Legible : List Token → Prop
  | [] => True
  | t :: ts =>
    t.Written ∧ (t.isNumber = true → ∀ next, ts.head? = some next → next.isNumber = false) ∧
      Legible ts

namespace Legible

theorem cons (written : t.Written) (plain : t.isNumber = false) (legible : Legible ts) :
    Legible (t :: ts) := by
  refine ⟨written, ?_, legible⟩
  intro number
  rw [plain] at number
  cases number

theorem append {more : List Token} (first : Legible ts) (second : Legible more)
    (apart : ∀ next, more.head? = some next → next.isNumber = false) : Legible (ts ++ more) := by
  induction ts with
  | nil => exact second
  | cons t ts ih =>
    obtain ⟨written, between, others⟩ := first
    refine ⟨written, ?_, ih others⟩
    intro number next front
    cases ts with
    | nil => exact apart next front
    | cons t' ts => exact between number next front

end Legible

/-- The texts of tokens one after another, with blanks anywhere around them. -/
inductive Spaced : List Token → List Char → Prop where
  | done : Spaced [] []
  | blank {c : Char} {ts : List Token} {text : List Char} (blank : isBlank c = true)
      (spaced : Spaced ts text) : Spaced ts (c :: text)
  | token {ts : List Token} {text : List Char} (t : Token) (spaced : Spaced ts text) :
      Spaced (t :: ts) (t.chars ++ text)

namespace Spaced

theorem ends_number (spaced : Spaced ts text) (legible : Legible ts)
    (other : ∀ next, ts.head? = some next → next.isNumber = false) : EndsNumber text := by
  intro c front
  cases spaced with
  | done => cases front
  | blank blank spaced =>
    cases front
    exact continuesNumber_of_isBlank blank
  | token t spaced =>
    obtain ⟨first, others, same, -, plain⟩ := chars_front legible.1
    rw [same] at front
    cases front
    exact plain (other t rfl)

theorem lex_after_blanks (spaced : Spaced ts text) (legible : Legible ts) :
    ∀ blanks, (∀ c ∈ blanks, isBlank c = true) → lex (blanks ++ text) = ts := by
  -- All blanks in front are dropped in one step, so the induction gathers them.
  induction spaced with
  | done =>
    intro blanks blank
    have dropped : (blanks ++ []).dropWhile isBlank = [] := by
      rw [List.dropWhile_append_of_pos blank, List.dropWhile_nil]
    rw [lex, dropped]
  | @blank c ts text one spaced ih =>
    intro blanks blank
    rw [List.append_cons]
    apply ih legible
    intro d member
    rcases List.mem_append.mp member with before | last
    · exact blank d before
    · rw [List.mem_singleton.mp last]
      exact one
  | @token ts text t spaced ih =>
    intro blanks blank
    obtain ⟨written, apart, others⟩ := legible
    have read : token? (t.chars ++ text) = some (t, text) :=
      token?_chars written fun number => spaced.ends_number others (apart number)
    obtain ⟨first, more, same, notBlank, -⟩ := chars_front written
    have dropped : (blanks ++ (t.chars ++ text)).dropWhile isBlank = first :: (more ++ text) := by
      rw [List.dropWhile_append_of_pos blank, same, List.cons_append,
        List.dropWhile_cons_of_neg (by rw [notBlank]; decide)]
    have shorter : text.length < (blanks ++ (t.chars ++ text)).length := by
      rw [same]
      simp only [List.length_append, List.length_cons]
      omega
    rw [same, List.cons_append] at read
    rw [lex, dropped]
    simp only [read, if_pos shorter]
    rw [← ih others [] nofun, List.nil_append]

/-- A text of legible tokens is divided into them, whatever blanks it has. -/
theorem lex_eq (spaced : Spaced ts text) (legible : Legible ts) : lex text = ts :=
  spaced.lex_after_blanks legible [] nofun

theorem newLine (spaced : Spaced ts text) (level : Nat) :
    Spaced ts (Json.newLine level ++ text) := by
  have indented : ∀ n, Spaced ts (List.replicate n ' ' ++ text) := by
    intro n
    induction n with
    | zero => exact spaced
    | succ n ih => exact .blank (by decide) ih
  exact .blank (by decide) (indented (2 * level))

theorem compact (ts : List Token) : Spaced ts (Json.compact ts) := by
  induction ts with
  | nil => exact .done
  | cons t ts ih => exact .token t ih

theorem pretty (level : Nat) (ts : List Token) : Spaced ts (Json.pretty level ts) := by
  fun_induction Json.pretty level ts with
  | case1 => exact .done
  | case2 level b b' rest ih =>
    rw [List.append_assoc]
    exact .token _ (.token _ ih)
  | case3 level b rest _ ih =>
    rw [List.append_assoc]
    exact .token _ (ih.newLine (level + 1))
  | case4 level b rest ih =>
    rw [List.append_assoc]
    exact (Spaced.token _ ih).newLine (level - 1)
  | case5 level rest ih =>
    rw [List.append_assoc]
    exact .token _ (ih.newLine level)
  | case6 level rest ih => exact .token _ (.blank (by decide) ih)
  | case7 level t rest _ _ _ _ _ ih => exact .token t ih

end Spaced

end HostNet.Json
