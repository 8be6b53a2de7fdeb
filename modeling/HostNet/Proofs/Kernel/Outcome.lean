import HostNet.Kernel.Run

/-!
How runs end. The outcome of a run that is put together follows from the outcomes of its parts; the
steps do not matter.
-/

namespace HostNet.Run

variable {ε ε' α β : Type} {r : Run ε α} {f : α → Run ε β} {a : α} {e : ε}

@[simp] theorem outcome_pure (a : α) : (Pure.pure a : Run ε α).outcome = .ok a := rfl

@[simp] theorem outcome_answered (c : Call) (a : α) :
    (answered c a : Run ε α).outcome = .ok a := rfl

@[simp] theorem outcome_call (c : Call) (answer : Except ε α) (fault : ε → OsError) :
    (call c answer fault).outcome = answer := by
  cases answer <;> rfl

@[simp] theorem outcome_mapError (g : ε → ε') (r : Run ε α) :
    (r.mapError g).outcome = r.outcome.mapError g := rfl

@[simp] theorem outcome_endingWith (r : Run ε α) (c : Call) :
    (r.endingWith c).outcome = r.outcome := rfl

theorem outcome_bind_of_ok (done : r.outcome = .ok a) : (r >>= f).outcome = (f a).outcome := by
  change (bind r f).outcome = _
  rw [bind, done]

theorem outcome_bind_of_error (failed : r.outcome = .error e) :
    (r >>= f).outcome = .error e := by
  change (bind r f).outcome = _
  rw [bind, failed]

theorem outcome_bind (r : Run ε α) (f : α → Run ε β) :
    (r >>= f).outcome = r.outcome.bind fun a => (f a).outcome := by
  cases ended : r.outcome with
  | ok a => exact outcome_bind_of_ok ended
  | error e => exact outcome_bind_of_error ended

end HostNet.Run
