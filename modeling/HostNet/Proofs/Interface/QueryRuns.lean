import HostNet.Proofs.Interface.Replies

/-!
Runs of queries over one registry. Each query but those for the source's name uses up the next
outcome, be it a failure or not, and is answered from that outcome alone.
-/

namespace HostNet

namespace Query

/-- What a query may answer, given how its enumeration ended. A failure is passed on as it is, or as
the reason that the host is unknown; it never shows as an empty result. -/
def Answered (source : String) (q : Query) (e : Enumeration) (answer : Except Error Reply) : Prop :=
  match q, e with
  | .source, _ => answer = .ok (.source source)
  | .localHost, .error cause => answer = .error (.unknownHost cause.message)
  | _, .error cause => answer = .error cause
  | .all, .ok entries => answer = .ok (.interfaces (Interface.group entries))
  | .named _, .ok _ => ∃ found, answer = .ok (.found found)
  | .holding _, .ok _ => ∃ found, answer = .ok (.found found)
  | .localHost, .ok _ =>
    (∃ a, answer = .ok (.address a)) ∨ ∃ reason, answer = .error (.unknownHost reason)

theorem answered_reply (source : String) (q : Query) (e : Enumeration) :
    q.Answered source e (q.reply source e) := by
  cases e with
  | error cause => cases q <;> rfl
  | ok entries =>
    cases q with
    | all => rfl
    | source => rfl
    | named name => exact ⟨_, rfl⟩
    | holding a => exact ⟨_, rfl⟩
    | localHost =>
      rw [reply_localHost]
      split
      · exact .inl ⟨_, rfl⟩
      · exact .inr ⟨_, rfl⟩

/-- The reply and the notes, given how the enumeration ends. -/
def told (source : String) (q : Query) (e : Enumeration) : Except Error Reply × List Event :=
  (q.reply source e, ((Backend.fixed source e).ask () q).1.events)

theorem told_source (source : String) (e : Enumeration) :
    told source .source e = (.ok (.source source), []) := rfl

end Query

namespace Registry

/-- The registry that a run of queries leaves. -/
def after (r : Registry) : List Query → Registry
  | [] => r
  | q :: rest => (r.ask q).2.after rest

/-- The outcome for the query at place `n`. Its number is the number of the queries before it, but
for those that only ask for the source's name. -/
def outcomeAt (r : Registry) (queries : List Query) (n : Nat) : Enumeration :=
  r.outcomes[(queries.take n).countP (· != .source)]?.getD (.ok [])

theorem enumerate_backend (r : Registry) (outcomes : List Enumeration) :
    r.backend.enumerate outcomes = (⟨[], outcomes[0]?.getD (.ok [])⟩, outcomes.drop 1) := by
  cases outcomes <;> rfl

/-- One query moves on by one outcome, or by none, and tells what follows from that outcome. -/
theorem ask_eq (r : Registry) (q : Query) :
    r.ask q = (q.told r.source (r.outcomes[0]?.getD (.ok [])),
      { r with outcomes := r.outcomes.drop (if q != .source then 1 else 0) }) := by
  let fixed := Backend.fixed r.source (r.outcomes[0]?.getD (.ok []))
  have enumerated := r.enumerate_backend r.outcomes
  have name : r.backend.name = fixed.name := rfl
  have answered : (r.backend.ask r.outcomes q).1 = (fixed.ask () q).1 :=
    Backend.ask_congr name (congrArg Prod.fst enumerated) q
  have rest : (r.backend.ask r.outcomes q).2 =
      r.outcomes.drop (if q != .source then 1 else 0) := by
    rw [Backend.state_ask, enumerated]
    split <;> rfl
  change (((r.backend.ask r.outcomes q).1.outcome, (r.backend.ask r.outcomes q).1.events),
    { r with outcomes := (r.backend.ask r.outcomes q).2 }) = _
  rw [answered, rest]
  rfl

theorem after_eq (r : Registry) (queries : List Query) :
    r.after queries =
      { r with outcomes := r.outcomes.drop (queries.countP (· != .source)) } := by
  induction queries generalizing r with
  | nil => rfl
  | cons q rest ih =>
    rw [after, ih, ask_eq, List.countP_cons, List.drop_drop, Nat.add_comm]

theorem outcomeAt_cons (r : Registry) (q : Query) (rest : List Query) (n : Nat) :
    r.outcomeAt (q :: rest) (n + 1) = (r.ask q).2.outcomeAt rest n := by
  simp only [outcomeAt, ask_eq, List.take_succ_cons, List.countP_cons, List.getElem?_drop,
    Nat.add_comm]

theorem length_askAll (r : Registry) (queries : List Query) :
    (r.askAll queries).length = queries.length := by
  induction queries generalizing r with
  | nil => rfl
  | cons q rest ih => rw [askAll, List.length_cons, ih, List.length_cons]

theorem getElem?_askAll (r : Registry) (queries : List Query) (n : Nat) :
    (r.askAll queries)[n]? =
      queries[n]?.map fun q => q.told r.source (r.outcomeAt queries n) := by
  induction queries generalizing r n with
  | nil => rfl
  | cons q rest ih =>
    cases n with
    | zero => simp [askAll, ask_eq, outcomeAt]
    | succ n =>
      have source : (r.ask q).2.source = r.source := by rw [ask_eq]
      rw [askAll, List.getElem?_cons_succ, ih, List.getElem?_cons_succ, outcomeAt_cons, source]

/-- Nothing is kept between queries. Each one but those for the source's name uses up one outcome,
the next; what it answers and notes follows from that outcome, whatever the other outcomes and
queries are; and an outcome that is a failure is told as one. -/
theorem queries_stand_alone (r : Registry) (queries : List Query) :
    (r.askAll queries).length = queries.length ∧
    (∀ n, (r.after (queries.take n)).outcomes =
      r.outcomes.drop ((queries.take n).countP (· != .source))) ∧
    ∀ n q, queries[n]? = some q →
      let outcome := r.outcomes[(queries.take n).countP (· != .source)]?.getD (.ok [])
      ∃ answer events, (r.askAll queries)[n]? = some (answer, events) ∧
        q.Answered r.source outcome answer ∧
        ∀ (other : Registry) (others : List Query) (m : Nat), other.source = r.source →
          others[m]? = some q →
          q = .source ∨
            other.outcomes[(others.take m).countP (· != .source)]?.getD (.ok []) = outcome →
          (other.askAll others)[m]? = some (answer, events) := by
  refine ⟨length_askAll r queries, fun n => by rw [after_eq], ?_⟩
  intro n q here outcome
  refine ⟨_, _, by rw [getElem?_askAll, here]; rfl, Query.answered_reply _ _ _, ?_⟩
  intro other others m source there same
  have told : q.told r.source (other.outcomeAt others m) = q.told r.source outcome := by
    rcases same with rfl | same
    · rw [Query.told_source, Query.told_source]
    · rw [outcomeAt, same]
  rw [getElem?_askAll, there, source, Option.map_some, told]
  rfl

/-- Of three enumerations the second one is refused. -/
def strained : Registry where
  source := "getifaddrs"
  outcomes := [.ok [⟨"lo", 1, .v4 #v[127, 0, 1, 1], none, none⟩],
    .error (.discovery "getifaddrs" (.errno ⟨24⟩)),
    .ok [⟨"eth0", 2, .v4 #v[172, 16, 0, 9], none, none⟩]]

def strainedQueries : List Query :=
  [.source, .named "eth0", .localHost, .source, .localHost, .all]

/-- The refusal is told to the query that meets it, and to the same query where another registry
meets it first; names are told in between, and after the last outcome nothing is found. -/
theorem queries_stand_alone_strained :
    (strained.askAll strainedQueries).length = 6 ∧
    (strained.after (strainedQueries.take 4)).outcomes =
      [.ok [⟨"eth0", 2, .v4 #v[172, 16, 0, 9], none, none⟩]] ∧
    (∃ events, (strained.askAll strainedQueries)[3]? = some (.ok (.source "getifaddrs"), events)) ∧
    (∃ events, (strained.askAll strainedQueries)[5]? = some (.ok (.interfaces []), events)) ∧
    ∃ refused : Except Error Reply × List Event,
      refused.1 = .error (.unknownHost "getifaddrs failed: Too many open files (os error 24)") ∧
      (strained.askAll strainedQueries)[2]? = some refused ∧
      (askAll ⟨"getifaddrs", strained.outcomes.drop 1⟩ [.source, .localHost])[1]? =
        some refused := by
  obtain ⟨length, rest, answered⟩ := queries_stand_alone strained strainedQueries
  obtain ⟨answer, events, failed, told, alone⟩ := answered 2 .localHost rfl
  obtain ⟨name, notes, named, source, -⟩ := answered 3 .source rfl
  obtain ⟨last, nothing, listed, ended, -⟩ := answered 5 .all rfl
  cases source
  cases ended
  have words : Error.message (.discovery "getifaddrs" (.errno ⟨24⟩)) =
      "getifaddrs failed: Too many open files (os error 24)" := rfl
  have again := alone ⟨"getifaddrs", strained.outcomes.drop 1⟩ [.source, .localHost] 1 rfl rfl
    (.inr rfl)
  exact ⟨length, rest 4, ⟨notes, named⟩, ⟨nothing, listed⟩, (answer, events),
    words ▸ told, failed, again⟩

end Registry

end HostNet
