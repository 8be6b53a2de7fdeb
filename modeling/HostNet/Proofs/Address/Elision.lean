import HostNet.Address.ColonGroups
import HostNet.Proofs.Text.Fields

/-!
Where the double colon of a text stands. Parts that are not empty and have no colon inside can be
joined by colons without making a double one, so the first is the one that was written.
-/

namespace HostNet.ColonGroups

variable {c : Char} {texts : List (List Char)}

/-- Parts that colons can be put between: none is empty, and none has a colon inside. -/
def Clean (texts : List (List Char)) : Prop :=
  ∀ text ∈ texts, text ≠ [] ∧ ':' ∉ text

theorem Clean.tail {text : List Char} (clean : Clean (text :: texts)) : Clean texts :=
  fun text member => clean text (List.mem_cons_of_mem _ member)

theorem Clean.append {others : List (List Char)} (front : Clean texts) (back : Clean others) :
    Clean (texts ++ others) := by
  intro text member
  rcases List.mem_append.mp member with member | member
  · exact front text member
  · exact back text member

theorem Clean.take (clean : Clean texts) (n : Nat) : Clean (texts.take n) :=
  fun text member => clean text (List.mem_of_mem_take member)

theorem Clean.drop (clean : Clean texts) (n : Nat) : Clean (texts.drop n) :=
  fun text member => clean text (List.mem_of_mem_drop member)

theorem side?_joined (quad : Bool) (clean : Clean texts) :
    side? quad (Text.joined [':'] texts) = parts? quad texts := by
  cases texts with
  | nil => rfl
  | cons text rest =>
    have absent : ∀ part ∈ text :: rest, ':' ∉ part := fun part member => (clean part member).2
    have written : (Text.joined [':'] (text :: rest)).isEmpty = false := by
      have first := (clean text List.mem_cons_self).1
      cases rest <;> simp [Text.joined, first]
    rw [side?, written, Text.fields_joined (List.cons_ne_nil _ _) absent]
    rfl

def prepend (front : List Char) (halves : List Char × List Char) : List Char × List Char :=
  (front ++ halves.1, halves.2)

theorem map_prepend_nil (halves : Option (List Char × List Char)) :
    halves.map (prepend []) = halves := by
  cases halves <;> rfl

theorem map_prepend_prepend (front next : List Char) (halves : Option (List Char × List Char)) :
    (halves.map (prepend next)).map (prepend front) = halves.map (prepend (front ++ next)) := by
  cases halves with
  | none => rfl
  | some halves => simp only [Option.map_some, prepend, List.append_assoc]

theorem splitAtElision_cons {cs : List Char} (apart : c = ':' → cs.head? ≠ some ':') :
    splitAtElision (c :: cs) = (splitAtElision cs).map (prepend [c]) := by
  rw [splitAtElision]
  · rfl
  · intro after colon rest
    rw [rest] at apart
    exact apart colon rfl

theorem splitAtElision_append {front : List Char} (absent : ':' ∉ front) (rest : List Char) :
    splitAtElision (front ++ rest) = (splitAtElision rest).map (prepend front) := by
  induction front with
  | nil => rw [List.nil_append, map_prepend_nil]
  | cons c front ih =>
    rw [List.mem_cons, not_or] at absent
    have apart : c = ':' → (front ++ rest).head? ≠ some ':' :=
      fun colon => absurd colon.symm absent.1
    rw [List.cons_append, splitAtElision_cons apart, ih absent.2, map_prepend_prepend]
    rfl

/-- No double colon starts inside joined parts, since each has a first character of its own. -/
theorem splitAtElision_joined (clean : Clean texts) (rest : List Char) :
    splitAtElision (Text.joined [':'] texts ++ rest) =
      (splitAtElision rest).map (prepend (Text.joined [':'] texts)) := by
  induction texts with
  | nil => rw [Text.joined, List.nil_append, map_prepend_nil]
  | cons text others ih =>
    obtain ⟨_, absent⟩ := clean text List.mem_cons_self
    cases others with
    | nil => exact splitAtElision_append absent rest
    | cons next others =>
      have apart : (Text.joined [':'] (next :: others) ++ rest).head? ≠ some ':' := by
        obtain ⟨written, foreign⟩ := clean next (List.mem_cons_of_mem _ List.mem_cons_self)
        obtain ⟨first, tail, rfl⟩ := List.exists_cons_of_ne_nil written
        have differs : first ≠ ':' := fun colon => foreign (by simp [colon])
        cases others <;> simpa [Text.joined] using differs
      rw [Text.joined, List.append_assoc, List.append_assoc, splitAtElision_append absent,
        List.singleton_append, splitAtElision_cons fun _ => apart, ih clean.tail,
        map_prepend_prepend, map_prepend_prepend]

theorem splitAtElision_elided (clean : Clean texts) (after : List Char) :
    splitAtElision (Text.joined [':'] texts ++ ':' :: ':' :: after) =
      some (Text.joined [':'] texts, after) := by
  rw [splitAtElision_joined clean, splitAtElision, Option.map_some, prepend, List.append_nil]

theorem splitAtElision_whole (clean : Clean texts) :
    splitAtElision (Text.joined [':'] texts) = none := by
  have split := splitAtElision_joined clean []
  rw [List.append_nil] at split
  rw [split]
  rfl

end HostNet.ColonGroups
