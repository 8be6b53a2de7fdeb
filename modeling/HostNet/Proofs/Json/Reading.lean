import HostNet.Json.Value
import HostNet.Proofs.Json.Lexing
import HostNet.Proofs.Sequencing

/-!
What a reader takes for a value: just the tokens it is written in, whatever follows them. Objects
and arrays are read when their members and elements are, and legible when these are.
-/

namespace HostNet.Json

open Reader

variable {α β σ : Type} {reader : Reader α} {ts : List Token} {a : α} {s s' : σ}
  {member : σ → String → Reader σ}

def Reads (reader : Reader α) (ts : List Token) (a : α) : Prop :=
  ∀ rest, reader (ts ++ rest) = .ok (a, rest)

namespace Reads

theorem pure (a : α) : Reads (Pure.pure a) [] a :=
  fun _ => rfl

theorem bind {next : α → Reader β} {more : List Token} {b : β} (first : Reads reader ts a)
    (second : Reads (next a) more b) : Reads (reader >>= next) (ts ++ more) b := by
  intro rest
  rw [List.append_assoc, Sequencing.bind_of_ok (first (more ++ rest))]
  exact second rest

theorem map (f : α → β) (first : Reads reader ts a) : Reads (f <$> reader) ts (f a) :=
  fun rest => Sequencing.map_of_ok (first rest)

theorem string (s : String) : Reads Reader.string [.ofString s] s := by
  intro rest
  have read : Reader.string (.text s.toList :: rest) = .ok (String.ofList s.toList, rest) := rfl
  rw [String.ofList_toList] at read
  exact read

theorem natural {bound n : Nat} (small : n < bound) : Reads (Reader.natural bound) [.ofNat n] n := by
  intro rest
  have value : Numeral.read? 10 (Numeral.decimal n) = some n :=
    Numeral.read?_toDigits (by decide) (by decide) n
  change Reader.natural bound (.number (Numeral.decimal n) :: rest) = .ok (n, rest)
  rw [Reader.natural, value]
  exact if_pos small

theorem optional_none : Reads (Reader.optional reader) [.null] none :=
  fun _ => rfl

theorem optional_some {first : Token} (read : Reads reader (first :: ts) a)
    (present : first ≠ .null) : Reads (Reader.optional reader) (first :: ts) (some a) := by
  intro rest
  rw [List.cons_append, Reader.optional]
  · exact read.map some rest
  · intro others same
    cases same
    exact present rfl

theorem once (read : Reads reader ts a) : Reads (Reader.once none reader) ts (some a) :=
  read.map some

end Reads

theorem separated_cons_append (part next : List Token) (parts : List (List Token))
    (tail : List Token) :
    separated (part :: next :: parts) ++ tail =
      part ++ .comma :: (separated (next :: parts) ++ tail) := by
  rw [separated, List.append_assoc, List.cons_append]

theorem separated_front (part : List Token) (parts : List (List Token)) :
    ∃ others, separated (part :: parts) = part ++ others := by
  cases parts with
  | nil => exact ⟨[], (List.append_nil part).symm⟩
  | cons next parts => exact ⟨_, rfl⟩

/-- Members that lead from one state to the next, each read from the tokens of its value. -/
inductive Leads (member : σ → String → Reader σ) : σ → List (String × List Token) → σ → Prop where
  | done (s : σ) : Leads member s [] s
  | step {s s₁ s' : σ} {key : String} {value : List Token} {ms : List (String × List Token)}
      (read : Reads (member s key) value s₁) (others : Leads member s₁ ms s') :
      Leads member s ((key, value) :: ms) s'

theorem members_of_leads {s₁ : σ} {key : String} {value : List Token}
    {ms : List (String × List Token)} (read : Reads (member s key) value s₁)
    (others : Leads member s₁ ms s') (rest : List Token) :
    members member s (separated (((key, value) :: ms).map memberTokens) ++
      .closing .brace :: rest) = .ok (s', rest) := by
  -- The state before the last key read is the one that the others lead on from.
  induction others generalizing s key value with
  | done s₁ =>
    change members member s (.text key.toList :: .colon :: (value ++ .closing .brace :: rest)) = _
    rw [members, String.ofList_toList, read (.closing .brace :: rest)]
  | @step s₁ s₂ s' nextKey nextValue ms nextRead others ih =>
    have later := ih nextRead
    rw [List.map_cons, List.map_cons, separated_cons_append]
    rw [List.map_cons] at later
    generalize separated (memberTokens (nextKey, nextValue) :: ms.map memberTokens) ++
      .closing .brace :: rest = tail at later ⊢
    have shorter : tail.length < (value ++ .comma :: tail).length := by
      rw [List.length_append, List.length_cons]
      omega
    change members member s (.text key.toList :: .colon :: (value ++ .comma :: tail)) = _
    rw [members, String.ofList_toList, read (.comma :: tail)]
    simp only [if_pos shorter]
    exact later

theorem Reads.object {ms : List (String × List Token)} (leads : Leads member s ms s') :
    Reads (Reader.object member s) (objectTokens ms) s' := by
  intro rest
  cases leads with
  | done => rfl
  | @step s s₁ s' key value ms read others =>
    have inside := members_of_leads read others rest
    have split : objectTokens ((key, value) :: ms) ++ rest =
        .opening .brace :: (separated (((key, value) :: ms).map memberTokens) ++
          .closing .brace :: rest) := by
      simp only [objectTokens, List.cons_append, List.append_assoc, List.nil_append]
    obtain ⟨more, front⟩ := separated_front (memberTokens (key, value)) (ms.map memberTokens)
    rw [split, Reader.object, inside]
    intro after same
    rw [List.map_cons, front] at same
    cases same

theorem elements_of_each {tokens : α → List Token} {as : List α}
    (first : Reads reader (tokens a) a) (each : ∀ b ∈ as, Reads reader (tokens b) b)
    (rest : List Token) :
    elements reader (separated ((a :: as).map tokens) ++ .closing .square :: rest) =
      .ok (a :: as, rest) := by
  induction as generalizing a with
  | nil =>
    change elements reader (tokens a ++ .closing .square :: rest) = _
    rw [elements, first (.closing .square :: rest)]
  | cons b as ih =>
    have later := ih (each b List.mem_cons_self) fun c member =>
      each c (List.mem_cons_of_mem b member)
    rw [List.map_cons, List.map_cons, separated_cons_append]
    rw [List.map_cons] at later
    generalize separated (tokens b :: as.map tokens) ++ .closing .square :: rest = tail at later ⊢
    have shorter : tail.length < (tokens a ++ .comma :: tail).length := by
      rw [List.length_append, List.length_cons]
      omega
    rw [elements, first (.comma :: tail)]
    simp only [if_pos shorter, later]

theorem Reads.array {tokens : α → List Token} {as : List α}
    (opens : ∀ b ∈ as, ∃ bracket others, tokens b = .opening bracket :: others)
    (each : ∀ b ∈ as, Reads reader (tokens b) b) :
    Reads (Reader.array reader) (arrayTokens (as.map tokens)) as := by
  intro rest
  cases as with
  | nil => rfl
  | cons a as =>
    have inside := elements_of_each (each a List.mem_cons_self)
      (fun b member => each b (List.mem_cons_of_mem a member)) rest
    have split : arrayTokens ((a :: as).map tokens) ++ rest =
        .opening .square :: (separated ((a :: as).map tokens) ++ .closing .square :: rest) := by
      simp only [arrayTokens, List.cons_append, List.append_assoc, List.nil_append]
    obtain ⟨more, front⟩ := separated_front (tokens a) (as.map tokens)
    obtain ⟨bracket, others, opening⟩ := opens a List.mem_cons_self
    rw [split, Reader.array, inside]
    intro after same
    rw [List.map_cons, front, opening] at same
    cases same

/-- A record that is written as an object is read by its members. -/
theorem Reads.record {byFields : Reader α} (byMembers : Reads reader (.opening .brace :: ts) a) :
    Reads (Reader.record reader byFields) (.opening .brace :: ts) a :=
  byMembers

namespace Legible

theorem separated {parts : List (List Token)} (each : ∀ part ∈ parts, Legible part) :
    Legible (Json.separated parts) := by
  induction parts with
  | nil => trivial
  | cons part parts ih =>
    have first := each part List.mem_cons_self
    have later := ih fun other member => each other (List.mem_cons_of_mem part member)
    cases parts with
    | nil => exact first
    | cons next parts =>
      refine first.append (cons trivial rfl later) ?_
      rintro next ⟨⟩
      rfl

theorem bracketed {b : Bracket} (inside : Legible ts) :
    Legible (.opening b :: ts ++ [.closing b]) := by
  have closed : Legible (ts ++ [.closing b]) := by
    refine inside.append ?_ ?_
    · exact cons trivial rfl trivial
    · rintro next ⟨⟩
      rfl
  exact cons trivial rfl closed

theorem object {ms : List (String × List Token)} (each : ∀ m ∈ ms, Legible m.2) :
    Legible (objectTokens ms) := by
  apply bracketed
  apply separated
  intro part member
  obtain ⟨m, known, rfl⟩ := List.mem_map.mp member
  exact cons trivial rfl (cons trivial rfl (each m known))

theorem array {tokens : α → List Token} {as : List α}
    (each : ∀ a ∈ as, Legible (tokens a)) : Legible (arrayTokens (as.map tokens)) := by
  apply bracketed
  apply separated
  intro part member
  obtain ⟨a, known, rfl⟩ := List.mem_map.mp member
  exact each a known

theorem text (s : String) : Legible [.ofString s] :=
  cons trivial rfl trivial

theorem number (n : Nat) : Legible [.ofNat n] :=
  ⟨⟨n, rfl⟩, nofun, trivial⟩

theorem option {tokens : α → List Token} {value : Option α}
    (each : ∀ a, Legible (tokens a)) : Legible (optionTokens tokens value) := by
  cases value with
  | none => exact cons trivial rfl trivial
  | some a => exact each a

end Legible

end HostNet.Json
