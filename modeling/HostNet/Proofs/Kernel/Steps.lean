import HostNet.Proofs.Kernel.Outcome

/-!
What runs do on their way. The steps of a run that is put together are those of its parts in order,
up to the first part that fails.
-/

namespace HostNet.Run

variable {ε α β : Type} {r : Run ε α} {f : α → Run ε β} {a : α} {b : β} {e : ε}

@[simp] theorem steps_endingWith (r : Run ε α) (c : Call) :
    (r.endingWith c).steps = r.steps ++ [.called c none] := rfl

theorem bind_of_pure (a : α) (f : α → Run ε β) : (Pure.pure a >>= f) = f a := rfl

theorem steps_bind_of_ok (done : r.outcome = .ok a) :
    (r >>= f).steps = r.steps ++ (f a).steps := by
  change (bind r f).steps = _
  rw [bind, done]

theorem steps_bind_of_error (failed : r.outcome = .error e) : (r >>= f).steps = r.steps := by
  change (bind r f).steps = _
  rw [bind, failed]

theorem exists_of_bind_ok (done : (r >>= f).outcome = .ok b) :
    ∃ a, r.outcome = .ok a ∧ (f a).outcome = .ok b := by
  cases ended : r.outcome with
  | ok a => exact ⟨a, rfl, outcome_bind_of_ok ended ▸ done⟩
  | error e =>
    rw [outcome_bind_of_error ended] at done
    cases done

theorem calls_bind_of_ok (done : r.outcome = .ok a) :
    (r >>= f).calls = r.calls ++ (f a).calls := by
  rw [calls, steps_bind_of_ok done, List.filterMap_append]
  rfl

theorem calls_bind_of_error (failed : r.outcome = .error e) : (r >>= f).calls = r.calls := by
  rw [calls, steps_bind_of_error failed]
  rfl

theorem calls_endingWith (r : Run ε α) (c : Call) :
    (r.endingWith c).calls = r.calls ++ [c] := by
  rw [calls, steps_endingWith, List.filterMap_append]
  rfl

end HostNet.Run
