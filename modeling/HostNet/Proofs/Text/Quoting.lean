import HostNet.Proofs.Text.Fields
import HostNet.Proofs.Text.Numeral
import HostNet.Text.Quoted

/-!
Quoted text read back. Whatever stands behind a closing quote, the characters before it can be told:
each of them is shown in a way that ends by itself, and none of these ways looks like the quote.
-/

namespace HostNet.Text

variable {c d : Char} {piece cs xs ys : List Char} {escaping : Bool}

/-! ### The ways to show a character -/

inductive Shown (c : Char) : List Char → Prop
  | letter {letter : Char} : (letter, c) ∈ shortEscapes → Shown c ['\\', letter]
  | number : Shown c ('\\' :: 'u' :: '\x7b' :: (Numeral.hexadecimal c.toNat ++ ['\x7d']))
  | itself : c ≠ '"' → c ≠ '\\' → isUnprintable c = false → Shown c [c]

theorem shown_escaped (c : Char) : Shown c (escaped c) := by
  unfold escaped
  split
  · rename_i letter other found
    have known := List.mem_of_find?_eq_some found
    have same := List.find?_some found
    rw [decide_eq_true_eq] at same
    cases same
    exact .letter known
  · rename_i unknown
    split
    · exact .number
    · rename_i visible
      have quote : c ≠ '"' := by
        rintro rfl
        cases unknown
      have backslash : c ≠ '\\' := by
        rintro rfl
        cases unknown
      rw [Bool.or_eq_true, not_or] at visible
      exact .itself quote backslash (Bool.not_eq_true _ ▸ visible.2)

/-! ### Reading them -/

/-- Reads one character as it is shown, and gives what stands behind it. -/
def unescape? : List Char → Option (Char × List Char)
  | '\\' :: 'u' :: '\x7b' :: rest =>
    match splitAtFirst '\x7d' rest with
    | none => none
    | some (digits, after) => (Numeral.read? 16 digits).map fun n => (Char.ofNat n, after)
  | '\\' :: letter :: rest => (shortEscapes.lookup letter).map fun c => (c, rest)
  | ['\\'] => none
  | c :: rest => some (c, rest)
  | [] => none

/-- Reads up to the closing quote, and gives what stands behind it. -/
def untilQuote? (cs : List Char) : Option (List Char × List Char) :=
  if cs.head? = some '"' then some ([], cs.tail)
  else
    match unescape? cs with
    | none => none
    | some (c, rest) =>
      if rest.length < cs.length then
        (untilQuote? rest).map fun (inside, after) => (c :: inside, after)
      else none
termination_by cs.length

def unquote? : List Char → Option (List Char × List Char)
  | '"' :: rest => untilQuote? rest
  | _ => none

theorem lookup_shortEscapes : ∀ p ∈ shortEscapes, shortEscapes.lookup p.1 = some p.2 := by
  decide

theorem short_ne_u : ∀ p ∈ shortEscapes, p.1 ≠ 'u' := by
  decide

theorem unescape?_append (shown : Shown c piece) (rest : List Char) :
    unescape? (piece ++ rest) = some (c, rest) := by
  cases shown with
  | @letter letter known =>
    have found : shortEscapes.lookup letter = some c := lookup_shortEscapes _ known
    have other : letter ≠ 'u' := short_ne_u _ known
    change unescape? ('\\' :: letter :: rest) = _
    rw [unescape?, found]
    · rfl
    · intro after same
      exact absurd same other
  | number =>
    have absent : '\x7d' ∉ Numeral.hexadecimal c.toNat :=
      Numeral.not_mem_toDigits (by decide) (by decide) (by decide)
    have read : Numeral.read? 16 (Numeral.hexadecimal c.toNat) = some c.toNat :=
      Numeral.read?_toDigits (by decide) (by decide) _
    have split := splitAtFirst_append absent rest
    simp [unescape?, split, read, Char.ofNat_toNat]
  | itself quote backslash visible =>
    change unescape? (c :: rest) = _
    rw [unescape?]
    all_goals simp [backslash]

theorem head?_append (shown : Shown c piece) (rest : List Char) :
    (piece ++ rest).head? ≠ some '"' := by
  cases shown with
  | letter => simp
  | number => simp
  | itself quote => simpa using quote

theorem length_lt_append (shown : Shown c piece) (rest : List Char) :
    rest.length < (piece ++ rest).length := by
  rw [List.length_append]
  cases shown <;> simp

theorem untilQuote?_shown (shown : Shown c piece) (rest : List Char) :
    untilQuote? (piece ++ rest) =
      (untilQuote? rest).map fun (inside, after) => (c :: inside, after) := by
  rw [untilQuote?, if_neg (head?_append shown rest), unescape?_append shown rest]
  exact if_pos (length_lt_append shown rest)

theorem untilQuote?_escaped (cs after : List Char) :
    untilQuote? (cs.flatMap escaped ++ '"' :: after) = some (cs, after) := by
  induction cs with
  | nil =>
    rw [untilQuote?]
    rfl
  | cons c cs ih =>
    rw [List.flatMap_cons, List.append_assoc, untilQuote?_shown (shown_escaped c), ih]
    rfl

theorem unquote?_quoted (cs after : List Char) :
    unquote? (quoted cs ++ after) = some (cs, after) := by
  have split : quoted cs ++ after = '"' :: (cs.flatMap escaped ++ '"' :: after) := by
    simp [quoted]
  rw [split]
  exact untilQuote?_escaped cs after

/-! ### What stands between the quotes -/

def IsControl (c : Char) : Prop :=
  c.toNat ≤ 0x1f ∨ (0x7f ≤ c.toNat ∧ c.toNat ≤ 0x9f)

instance (c : Char) : Decidable (IsControl c) :=
  inferInstanceAs (Decidable (_ ∨ _))

theorem isUnprintable_of_isControl (control : IsControl c) : isUnprintable c = true := by
  have low : ∃ range ∈ unprintableLow, range.1 ≤ c.toNat ∧ c.toNat ≤ range.2 := by
    rcases control with first | ⟨least, most⟩
    · exact ⟨(0x0, 0x1f), List.mem_cons_self, Nat.zero_le _, first⟩
    · exact ⟨(0x7f, 0xa0), List.mem_cons_of_mem _ List.mem_cons_self, least, by omega⟩
  simp only [isUnprintable, List.any_cons, Bool.or_eq_true, List.any_eq_true, Bool.and_eq_true,
    decide_eq_true_eq]
  exact .inl low

theorem short_not_isControl : ∀ p ∈ shortEscapes, ¬ IsControl p.1 := by
  decide

theorem digit_not_isControl : ∀ d < 16, ¬ IsControl (Nat.digitChar d) := by
  decide

theorem not_isControl_of_shown (shown : Shown c piece) (member : d ∈ piece) : ¬ IsControl d := by
  cases shown with
  | letter known =>
    rcases List.mem_cons.mp member with rfl | member
    · decide
    · rw [List.mem_singleton.mp member]
      exact short_not_isControl _ known
  | number =>
    simp only [List.mem_cons, List.mem_append, List.not_mem_nil, or_false] at member
    rcases member with rfl | rfl | rfl | digit | rfl
    · decide
    · decide
    · decide
    · obtain ⟨n, small, rfl⟩ := Numeral.exists_digitChar_of_mem_toDigits (by decide) digit
      exact digit_not_isControl n small
    · decide
  | itself _ _ visible =>
    rw [List.mem_singleton.mp member]
    intro control
    rw [isUnprintable_of_isControl control] at visible
    cases visible

/-- Whether a backslash at the end of a text escapes what comes next. One that is escaped itself does
not. -/
def escapesAfter (escaping : Bool) (cs : List Char) : Bool :=
  cs.foldl (fun escaping c => !escaping && c = '\\') escaping

theorem escapesAfter_append (escaping : Bool) (xs ys : List Char) :
    escapesAfter escaping (xs ++ ys) = escapesAfter (escapesAfter escaping xs) ys :=
  List.foldl_append

/-- Each quote comes after a backslash that escapes it. -/
def Guarded (escaping : Bool) (cs : List Char) : Prop :=
  ∀ before after, cs = before ++ '"' :: after → escapesAfter escaping before = true

theorem guarded_nil (escaping : Bool) : Guarded escaping [] := by
  intro before after split
  cases before <;> cases split

theorem guarded_cons_iff :
    Guarded escaping (c :: cs) ↔
      (c = '"' → escaping = true) ∧ Guarded (!escaping && c = '\\') cs := by
  constructor
  · intro guarded
    refine ⟨?_, ?_⟩
    · rintro rfl
      exact guarded [] cs rfl
    · rintro before after rfl
      exact guarded (c :: before) after rfl
  · rintro ⟨first, others⟩ before after split
    cases before with
    | nil =>
      cases split
      exact first rfl
    | cons b before =>
      cases split
      exact others before after rfl

theorem Guarded.append (front : Guarded escaping xs)
    (back : Guarded (escapesAfter escaping xs) ys) : Guarded escaping (xs ++ ys) := by
  induction xs generalizing escaping with
  | nil => exact back
  | cons x xs ih =>
    obtain ⟨first, others⟩ := guarded_cons_iff.mp front
    exact guarded_cons_iff.mpr ⟨first, ih others back⟩

/-- A text is closed if no quote in it ends it, and neither escapes what comes behind it. -/
structure Closed (cs : List Char) : Prop where
  guarded : Guarded false cs
  done : escapesAfter false cs = false

theorem Closed.append (front : Closed xs) (back : Closed ys) : Closed (xs ++ ys) where
  guarded := by
    apply front.guarded.append
    rw [front.done]
    exact back.guarded
  done := by rw [escapesAfter_append, front.done, back.done]

theorem closed_nil : Closed [] :=
  ⟨guarded_nil false, rfl⟩

theorem closed_singleton (quote : c ≠ '"') (backslash : c ≠ '\\') : Closed [c] where
  guarded := guarded_cons_iff.mpr ⟨fun same => absurd same quote, guarded_nil _⟩
  done := by simp [escapesAfter, backslash]

theorem closed_pair (c : Char) : Closed ['\\', c] where
  guarded := by simp [guarded_cons_iff, guarded_nil]
  done := by simp [escapesAfter]

theorem closed_of_plain (quote : '"' ∉ cs) (backslash : '\\' ∉ cs) : Closed cs := by
  induction cs with
  | nil => exact closed_nil
  | cons c cs ih =>
    rw [List.mem_cons, not_or] at quote backslash
    have first := closed_singleton (Ne.symm quote.1) (Ne.symm backslash.1)
    exact first.append (ih quote.2 backslash.2)

theorem closed_of_shown (shown : Shown c piece) : Closed piece := by
  cases shown with
  | letter => exact closed_pair _
  | number =>
    have quote : '"' ∉ '\x7b' :: (Numeral.hexadecimal c.toNat ++ ['\x7d']) := by
      have digits : '"' ∉ Numeral.hexadecimal c.toNat :=
        Numeral.not_mem_toDigits (by decide) (by decide) (by decide)
      simp [digits]
    have backslash : '\\' ∉ '\x7b' :: (Numeral.hexadecimal c.toNat ++ ['\x7d']) := by
      have digits : '\\' ∉ Numeral.hexadecimal c.toNat :=
        Numeral.not_mem_toDigits (by decide) (by decide) (by decide)
      simp [digits]
    exact (closed_pair 'u').append (closed_of_plain quote backslash)
  | itself quote backslash => exact closed_singleton quote backslash

theorem closed_escaped (cs : List Char) : Closed (cs.flatMap escaped) := by
  induction cs with
  | nil => exact closed_nil
  | cons c cs ih =>
    rw [List.flatMap_cons]
    exact (closed_of_shown (shown_escaped c)).append ih

theorem not_isControl_escaped (member : c ∈ cs.flatMap escaped) : ¬ IsControl c := by
  obtain ⟨d, _, inside⟩ := List.mem_flatMap.mp member
  exact not_isControl_of_shown (shown_escaped d) inside

end HostNet.Text
