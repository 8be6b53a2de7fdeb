/-!
Readers in sequence. A reader takes from what is left over, and the first one that fails decides how
the whole fails.
-/

namespace HostNet.Sequencing

variable {σ ε α β : Type} {reader : StateT σ (Except ε) α} {next : α → StateT σ (Except ε) β}
  {input rest : σ} {a : α} {e : ε}

theorem bind_of_ok (read : reader input = .ok (a, rest)) :
    (reader >>= next) input = next a rest := by
  change (reader input >>= fun (a, rest) => next a rest) = _
  rw [read]
  rfl

theorem bind_of_error (failed : reader input = .error e) :
    (reader >>= next) input = .error e := by
  change (reader input >>= fun (a, rest) => next a rest) = _
  rw [failed]
  rfl

theorem map_of_ok {f : α → β} (read : reader input = .ok (a, rest)) :
    (f <$> reader) input = .ok (f a, rest) := by
  change (reader input >>= fun (a, rest) => .ok (f a, rest)) = _
  rw [read]
  rfl

end HostNet.Sequencing
