import HostNet.Error
import HostNet.Proofs.Text.Quoting

/-!
What the message about a refused address says. The input stands between quotes that it cannot close,
so the message gives back the input and the reason, whatever they are.
-/

namespace HostNet.Error

/-- The input and the reason, read off the message about a refused address. -/
def refusal? (message : String) : Option (String × String) :=
  if "invalid address ".toList <+: message.toList then
    match Text.unquote? (message.toList.drop "invalid address ".toList.length) with
    | some (input, ':' :: ' ' :: reason) => some (String.ofList input, String.ofList reason)
    | _ => none
  else none

theorem toList_message (input reason : String) :
    (invalidAddress input reason).message.toList =
      "invalid address ".toList ++ (Text.quoted input.toList ++ ':' :: ' ' :: reason.toList) := by
  have colon : ": ".toList = [':', ' '] := by simp
  have parts : (invalidAddress input reason).message =
      "invalid address " ++ String.ofList (Text.quoted input.toList) ++ ": " ++ reason := rfl
  simp only [parts, String.toList_append, String.toList_ofList, colon, List.append_assoc,
    List.cons_append, List.nil_append]

theorem refusal?_message (input reason : String) :
    refusal? (invalidAddress input reason).message = some (input, reason) := by
  rw [refusal?, toList_message, if_pos (List.prefix_append _ _), List.drop_left,
    Text.unquote?_quoted]
  simp only [String.ofList_toList]

theorem message_inj {input reason other cause : String} :
    (invalidAddress input reason).message = (invalidAddress other cause).message ↔
      input = other ∧ reason = cause := by
  constructor
  · intro same
    have read := refusal?_message input reason
    rw [same, refusal?_message other cause] at read
    obtain ⟨inputs, reasons⟩ := Prod.mk.inj (Option.some.inj read)
    exact ⟨inputs.symm, reasons.symm⟩
  · rintro ⟨rfl, rfl⟩
    rfl

/-- Messages about refused addresses differ wherever the inputs or the reasons do, and both can be
read off the message. Between its quotes there is no control character, and no quote but after a
backslash that escapes it; the closing quote is not escaped. -/
theorem refusals_readable (input reason : String) :
    (∀ other cause, (invalidAddress input reason).message = (invalidAddress other cause).message ↔
      input = other ∧ reason = cause) ∧
    refusal? (invalidAddress input reason).message = some (input, reason) ∧
    ∃ inside, (invalidAddress input reason).message =
        "invalid address \"" ++ String.ofList inside ++ "\": " ++ reason ∧
      (∀ c ∈ inside, ¬ Text.IsControl c) ∧
      (∀ before after, inside = before ++ '"' :: after → Text.escapesAfter false before = true) ∧
      Text.escapesAfter false inside = false := by
  have closed := Text.closed_escaped input.toList
  refine ⟨fun _ _ => message_inj, refusal?_message input reason,
    input.toList.flatMap Text.escaped, ?_, fun c member => Text.not_isControl_escaped member,
    closed.guarded, closed.done⟩
  have front : "invalid address \"".toList = "invalid address ".toList ++ ['"'] := by simp
  have back : "\": ".toList = ['"', ':', ' '] := by simp
  apply String.toList_inj.mp
  simp only [toList_message, String.toList_append, String.toList_ofList, front, back,
    Text.quoted, List.append_assoc, List.cons_append, List.nil_append]

end HostNet.Error
