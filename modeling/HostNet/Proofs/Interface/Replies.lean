import HostNet.Proofs.Kernel.Outcome
import HostNet.Registry

/-!
What a query takes from its backend: one enumeration, or none if it only asks for the name. The
reply depends on how that enumeration ends, and the run of the query on how it goes.
-/

namespace HostNet

/-- Every enumeration ends in this way, without a step. -/
def Backend.fixed (name : String) (e : Enumeration) : Backend Unit where
  name := name
  enumerate _ := (⟨[], e⟩, ())

/-- The reply to a query, given the source's name and how the enumeration ends. -/
def Query.reply (source : String) (q : Query) (e : Enumeration) : Except Error Reply :=
  ((Backend.fixed source e).ask () q).1.outcome

namespace Backend

open Run

variable {σ τ : Type} (b : Backend σ) (state : σ)

theorem state_ask (q : Query) :
    (b.ask state q).2 = if q != .source then (b.enumerate state).2 else state := by
  cases q <;> rfl

theorem ask_congr {b : Backend σ} {c : Backend τ} {state : σ} {other : τ} (name : b.name = c.name)
    (found : (b.enumerate state).1 = (c.enumerate other).1) (q : Query) :
    (b.ask state q).1 = (c.ask other q).1 := by
  have listed : (b.listAll state).1 = (c.listAll other).1 := by
    simp only [listAll, name, found]
  cases q with
  | all => simp only [ask, replied, listed]
  | named => simp only [ask, replied, findNamed, lookUp, listed]
  | holding => simp only [ask, replied, findHolding, lookUp, listed]
  | localHost => simp only [ask, replied, localHost, listed]
  | source => simp only [ask, name]

theorem outcome_ask (q : Query) :
    (b.ask state q).1.outcome = q.reply b.name (b.enumerate state).1.outcome := by
  have listed : (b.listAll state).1.outcome =
      ((fixed b.name (b.enumerate state).1.outcome).listAll ()).1.outcome := by
    simp only [listAll, fixed, outcome_bind]
  cases q with
  | all => simp only [Query.reply, ask, replied, outcome_bind, listed]
  | named => simp only [Query.reply, ask, replied, findNamed, lookUp, outcome_bind, listed]
  | holding => simp only [Query.reply, ask, replied, findHolding, lookUp, outcome_bind, listed]
  | localHost =>
    simp only [Query.reply, ask, replied, localHost, outcome_bind, outcome_mapError, listed]
  | source => rfl

end Backend

namespace Query

variable (source : String) (entries : List Entry)

theorem reply_all : reply source .all (.ok entries) = .ok (.interfaces (Interface.group entries)) :=
  rfl

theorem reply_named (name : String) :
    reply source (.named name) (.ok entries) =
      .ok (.found (Interface.findNamed (Interface.group entries) name)) := rfl

theorem reply_holding (a : Address) :
    reply source (.holding a) (.ok entries) =
      .ok (.found (Interface.findHolding (Interface.group entries) a)) := rfl

theorem reply_localHost :
    reply source .localHost (.ok entries) =
      match Interface.firstOutward (Interface.group entries) with
      | some a => .ok (.address a)
      | none => .error (.unknownHost "no non-loopback address is bound to any interface") := by
  have looked : reply source .localHost (.ok entries) =
      Except.map Reply.address (Run.outcome
        (match Interface.firstOutward (Interface.group entries) with
          | some a => pure a
          | none =>
            Run.fail (.unknownHost "no non-loopback address is bound to any interface"))) :=
    Run.outcome_bind _ _
  rw [looked]
  split <;> rfl

end Query

end HostNet
