import Mathlib.Data.List.Nodup
import HostNet.Proofs.Binary.Bounds
import HostNet.Proofs.Interface.Regrouping
import HostNet.Proofs.Interface.Replies
import HostNet.Proofs.Json.RoundTrip

/-!
Interfaces with a binding, displayed by their names. Queries reply with no others, since a record is
made of entries; the readers of serialized forms take the fields as they stand.
-/

namespace HostNet

/-- The interfaces in a reply. -/
def Reply.records : Reply → List Interface
  | .interfaces all => all
  | .found interface => interface.toList
  | .address _ => []
  | .source _ => []

namespace Query

variable {source : String} {q : Query} {e : Enumeration} {r : Reply}

/-- A reply has only records that one enumeration was grouped to. -/
theorem exists_group_of_reply (replied : q.reply source e = .ok r) :
    ∃ entries, ∀ i ∈ r.records, i ∈ Interface.group entries := by
  cases e with
  | error cause =>
    cases q <;> cases replied
    exact ⟨[], nofun⟩
  | ok entries =>
    refine ⟨entries, fun i member => ?_⟩
    cases q with
    | all =>
      cases replied
      exact member
    | named name =>
      cases replied
      exact List.mem_of_find?_eq_some (Option.mem_toList.mp member)
    | holding a =>
      cases replied
      exact List.mem_of_find?_eq_some (Option.mem_toList.mp member)
    | localHost =>
      rw [reply_localHost] at replied
      split at replied <;> cases replied
      cases member
    | source =>
      cases replied
      cases member

theorem wellFormed_of_reply (replied : q.reply source e = .ok r) :
    ∀ i ∈ r.records, i.WellFormed := by
  obtain ⟨entries, grouped⟩ := exists_group_of_reply replied
  exact fun i member => Interface.wellFormed_of_mem_group (grouped i member)

theorem exists_listing_iff {records : List Interface} :
    (∃ entries, reply source .all (.ok entries) = .ok (.interfaces records)) ↔
      (records.map (·.name)).Nodup ∧ ∀ i ∈ records, i.WellFormed := by
  rw [← Interface.exists_group_iff]
  refine exists_congr fun entries => ⟨fun listed => ?_, fun grouped => ?_⟩
  · cases listed
    rfl
  · rw [← grouped]
    rfl

end Query

namespace Interface

theorem exists_text (i : Interface) : ∃ text, Json.Reader.run reader text = .ok i :=
  ⟨_, (i.reads_tokens.readBack i.legible_tokens).1⟩

theorem exists_text_list (is : List Interface) :
    ∃ text, Json.Reader.run (.array reader) text = .ok is := by
  have reads : Json.Reads (.array reader) (Json.arrayTokens (is.map tokens)) is :=
    .array (fun i _ => ⟨.brace, _, rfl⟩) fun i _ => i.reads_tokens
  exact ⟨_, (reads.readBack (.array fun i _ => i.legible_tokens)).1⟩

/-- The ways to come by an interface: the reply to a query, or a serialized form, of it alone or of a
list that it is in. -/
inductive Route where
  | query
  | text
  | textList
  | octets
  | octetList

namespace Route

def Gives : Route → Interface → Prop
  | .query, i => ∃ source q e r, Query.reply source q e = .ok r ∧ i ∈ r.records
  | .text, i => ∃ text, Json.Reader.run reader text = .ok i
  | .textList, i => ∃ text is, Json.Reader.run (.array reader) text = .ok is ∧ i ∈ is
  | .octets, i => ∃ octets, Binary.Reader.run binaryReader octets = .ok i
  | .octetList, i =>
    ∃ octets is, Binary.Reader.run (.sequence binaryReader) octets = .ok is ∧ i ∈ is

/-- All that the way asks of an interface. -/
def Admits : Route → Interface → Prop
  | .query, i => i.WellFormed
  | .text, _ => True
  | .textList, _ => True
  | .octets, i => i.Countable
  | .octetList, i => i.Countable

theorem gives_iff (route : Route) (i : Interface) : route.Gives i ↔ route.Admits i := by
  cases route with
  | query =>
    constructor
    · rintro ⟨source, q, e, r, replied, member⟩
      exact Query.wellFormed_of_reply replied i member
    · intro formed
      have distinct : ([i].map (·.name)).Nodup := List.nodup_singleton _
      obtain ⟨entries, listed⟩ := Query.exists_listing_iff.mpr
        ⟨distinct, List.forall_mem_singleton.mpr formed⟩
      exact ⟨"", .all, .ok entries, _, listed, List.mem_singleton_self i⟩
  | text => exact iff_of_true (exists_text i) True.intro
  | textList =>
    obtain ⟨text, accepted⟩ := exists_text_list [i]
    exact iff_of_true ⟨text, [i], accepted, List.mem_singleton_self i⟩ True.intro
  | octets => exact exists_octets_iff
  | octetList =>
    constructor
    · rintro ⟨octets, is, accepted, member⟩
      exact (exists_octets_list_iff.mp ⟨octets, accepted⟩).2 i member
    · intro countable
      obtain ⟨octets, accepted⟩ := exists_octets_list_iff.mpr
        ⟨Nat.one_lt_two_pow (by decide), List.forall_mem_singleton.mpr countable⟩
      exact ⟨octets, [i], accepted, List.mem_singleton_self i⟩

end Route

/-- An interface of no bindings, displayed by another name. -/
def hollow : Interface :=
  ⟨"eth0", "eth1", 2, []⟩

theorem not_wellFormed_hollow : ¬ hollow.WellFormed :=
  fun formed => formed.bound rfl

theorem countable_hollow : hollow.Countable :=
  ⟨by decide, by decide, by decide⟩

/-- Queries hand out just the interfaces that are well formed. The readers' ways, which take any that
can be written down, are not confined to them. -/
theorem queries_alone_keep_form (route : Route) :
    (∀ i, route.Gives i ↔ route.Admits i) ∧
    ((∀ i, route.Gives i → i.WellFormed) ↔ route = .query) := by
  refine ⟨route.gives_iff, ?_⟩
  simp only [route.gives_iff]
  constructor
  · intro keeps
    have refused := fun admitted => not_wellFormed_hollow (keeps hollow admitted)
    cases route with
    | query => rfl
    | text => exact (refused True.intro).elim
    | textList => exact (refused True.intro).elim
    | octets => exact (refused countable_hollow).elim
    | octetList => exact (refused countable_hollow).elim
  · rintro rfl i formed
    exact formed

/-- It is accepted in each of its serialized forms. -/
theorem hollow_accepted :
    Json.Reader.run reader
      "\x7b\"name\":\"eth0\",\"display_name\":\"eth1\",\"index\":2,\"addresses\":[]\x7d" = .ok hollow ∧
    Json.Reader.run (.array reader)
      "[\x7b\"name\":\"eth0\",\"display_name\":\"eth1\",\"index\":2,\"addresses\":[]\x7d]" =
        .ok [hollow] ∧
    Binary.Reader.run binaryReader hollow.binary = .ok hollow ∧
    Binary.Reader.run (.sequence binaryReader) (Binary.encodeList binary [hollow]) = .ok [hollow] ∧
    ¬ hollow.WellFormed := by
  refine ⟨by decide +kernel, by decide +kernel, by decide +kernel, by decide +kernel,
    not_wellFormed_hollow⟩

end Interface

end HostNet
