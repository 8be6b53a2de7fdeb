import HostNet.Kernel.Configuration
import HostNet.Proofs.Kernel.Steps

/-!
Refused calls and the errors that tell of them. Work that consists of requests stops at the first
one that is refused; its error names that request and carries the fault.
-/

namespace HostNet

/-- What an error calls a call. -/
def Call.primitive : Call → String
  | .list => "getifaddrs"
  | .freeList => "freeifaddrs"
  | .indexOf _ => "if_nametoindex"
  | .openSocket => "socket"
  | .configuration _ => "SIOCGIFCONF"
  | .request r _ => r.name
  | .closeSocket => "close"

def Granted (steps : List Step) : Prop :=
  ∀ c f, Step.called c (some f) ∉ steps

/-- The only calls that are refused are configuration calls whose buffer was too small, before the
first one that is granted. -/
def Excused (steps : List Step) : Prop :=
  ∀ before c f after, steps = before ++ .called c (some f) :: after →
    f = .errno .invalidArgument ∧ (∃ capacity, c = .configuration capacity) ∧
      ∀ capacity, Step.called (.configuration capacity) none ∉ before

/-- The kernel refuses the call in some situation. -/
inductive Kernel.Refuses (k : Kernel) : Call → Errno → Prop
  | openSocket {e : Errno} : k.socketFault = some e → k.Refuses .openSocket e
  | configuration {attempt capacity : Nat} {e : Errno} :
    k.configuration attempt capacity = .error e → k.Refuses (.configuration capacity) e
  | flags {round : Nat} {name : RawName} {e : Errno} :
    k.flags round name = .error e → k.Refuses (.request .flags name) e
  | netmask {round : Nat} {name : RawName} {e : Errno} :
    k.netmask round name = .error e → k.Refuses (.request .netmask name) e
  | broadcast {round : Nat} {name : RawName} {e : Errno} :
    k.broadcast round name = .error e → k.Refuses (.request .broadcast name) e
  | index {round : Nat} {name : RawName} {e : Errno} :
    k.index round name = .error e → k.Refuses (.request .index name) e

/-- The error names the call that the steps end with, which the kernel refused; the steps before it
are as `Before` says. -/
def Kernel.Blames (k : Kernel) (Before : List Step → Prop) (steps : List Step) (e : Error) : Prop :=
  ∃ before call fault, steps = before ++ [.called call (some (.errno fault))] ∧
    e = .discovery call.primitive (.errno fault) ∧ k.Refuses call fault ∧ Before before

/-- The run tells of every refusal: it ends well if there is none, and stops at the first. -/
structure Kernel.Tells {α : Type} (k : Kernel) (r : Run Error α) : Prop where
  granted : ∀ a, r.outcome = .ok a → Granted r.steps
  refused : ∀ e, r.outcome = .error e → k.Blames Granted r.steps e

variable {front back steps : List Step} {s : Step}

/-! ### Steps in sequence -/

theorem Granted.nil : Granted [] := fun _ _ => List.not_mem_nil

theorem Granted.cons (granted : ∀ c f, s ≠ .called c (some f)) (rest : Granted steps) :
    Granted (s :: steps) := by
  intro c f member
  rcases List.mem_cons.mp member with same | member
  · exact granted c f same.symm
  · exact rest c f member

theorem Granted.append (first : Granted front) (second : Granted back) :
    Granted (front ++ back) := by
  intro c f member
  rcases List.mem_append.mp member with member | member
  · exact first c f member
  · exact second c f member

theorem Granted.excused (granted : Granted steps) : Excused steps := by
  intro before c f after split
  exact absurd (split ▸ List.mem_append_right before List.mem_cons_self) (granted c f)

theorem Excused.append (excused : Excused front) (granted : Granted back) :
    Excused (front ++ back) := by
  intro before c f after split
  rcases List.append_eq_append_iff.mp split with ⟨middle, -, tail⟩ | ⟨middle, whole, tail⟩
  · have refused : Step.called c (some f) ∈ back := by simp [tail]
    exact absurd refused (granted c f)
  · cases middle with
    | nil =>
      rw [List.nil_append] at tail
      exact absurd (tail ▸ List.mem_cons_self) (granted c f)
    | cons s middle =>
      cases tail
      exact excused before c f middle whole

theorem Excused.cons (excused : Excused steps)
    (allowed : ∀ c f, s = .called c (some f) →
      f = .errno .invalidArgument ∧ ∃ capacity, c = .configuration capacity)
    (unsure : ∀ capacity, s ≠ .called (.configuration capacity) none) :
    Excused (s :: steps) := by
  intro before c f after split
  cases before with
  | nil =>
    cases split
    obtain ⟨invalid, configuration⟩ := allowed c f rfl
    exact ⟨invalid, configuration, fun _ => List.not_mem_nil⟩
  | cons first before =>
    cases split
    obtain ⟨invalid, configuration, none⟩ := excused before c f after rfl
    refine ⟨invalid, configuration, fun capacity member => ?_⟩
    rcases List.mem_cons.mp member with same | member
    · exact unsure capacity same.symm
    · exact none capacity member

theorem Excused.opened (excused : Excused steps) : Excused (.called .openSocket none :: steps) :=
  excused.cons (by simp) (by simp)

theorem Kernel.Blames.opened {k : Kernel} {e : Error} (blames : k.Blames Excused steps e) :
    k.Blames Excused (.called .openSocket none :: steps) e := by
  obtain ⟨before, call, fault, rfl, same, refuses, excused⟩ := blames
  exact ⟨_, call, fault, rfl, same, refuses, excused.opened⟩

theorem Kernel.Blames.after {k : Kernel} {Before : List Step → Prop} {e : Error}
    (blames : k.Blames Granted steps e)
    (enters : ∀ before, Granted before → Before (front ++ before)) :
    k.Blames Before (front ++ steps) e := by
  obtain ⟨before, call, fault, rfl, same, refuses, granted⟩ := blames
  exact ⟨front ++ before, call, fault, (List.append_assoc ..).symm, same, refuses,
    enters before granted⟩

/-! ### Requests -/

namespace Kernel

open Run

variable {α β : Type} {k : Kernel} {round : Nat}

theorem tells_pure (k : Kernel) (a : α) : k.Tells (Pure.pure a : Run Error α) where
  granted _ _ := .nil
  refused _ failed := nomatch failed

theorem tells_note (k : Kernel) (event : Event) : k.Tells (note event : Run Error Unit) where
  granted _ _ := .cons (by simp) .nil
  refused _ failed := nomatch failed

theorem tells_request {r : Request} {name : RawName} {answer : Except Errno α}
    (refuses : ∀ e, answer = .error e → k.Refuses (.request r name) e) :
    k.Tells (request r name answer) := by
  cases answer with
  | ok a =>
    constructor
    · intro _ _
      exact .cons (by simp) .nil
    · intro e failed
      cases failed
  | error fault =>
    constructor
    · intro a done
      cases done
    · intro e failed
      cases failed
      exact ⟨[], .request r name, fault, rfl, rfl, refuses fault rfl, .nil⟩

theorem Tells.bind {r : Run Error α} {f : α → Run Error β} (first : k.Tells r)
    (next : ∀ a, r.outcome = .ok a → k.Tells (f a)) : k.Tells (r >>= f) := by
  cases ended : r.outcome with
  | ok a =>
    have granted := first.granted a ended
    constructor
    · intro b done
      rw [outcome_bind_of_ok ended] at done
      rw [steps_bind_of_ok ended]
      exact granted.append ((next a ended).granted b done)
    · intro e failed
      rw [outcome_bind_of_ok ended] at failed
      rw [steps_bind_of_ok ended]
      exact ((next a ended).refused e failed).after fun _ => granted.append
  | error e =>
    constructor
    · intro b done
      rw [outcome_bind_of_error ended] at done
      cases done
    · intro e' failed
      rw [outcome_bind_of_error ended] at failed
      cases failed
      rw [steps_bind_of_error ended]
      exact first.refused e ended

theorem tells_inspect (k : Kernel) (round : Nat) (s : Slot) : k.Tells (k.inspect round s) := by
  rw [inspect]
  split
  · rename_i octets _
    refine (tells_request fun _ => .flags).bind fun flags _ => ?_
    dsimp only
    split
    · refine (tells_request fun _ => .netmask).bind fun netmask _ => ?_
      have ending : ∀ broadcast : Option Address, k.Tells (do
          let index ← request .index s.name (k.index round s.name)
          return some (⟨s.name.text, index.toUInt32, .v4 octets, netmask.unscoped?, broadcast⟩ :
            Entry)) :=
        fun _ => (tells_request fun _ => .index).bind fun _ _ => tells_pure k _
      split
      · refine (tells_request fun _ => .broadcast).bind fun _ _ => ?_
        exact (tells_pure k _).bind fun _ _ => ending _
      · exact (tells_pure k _).bind fun _ _ => ending _
    · exact (tells_note k _).bind fun _ _ => tells_pure k _
  · exact (tells_note k _).bind fun _ _ => tells_pure k _

theorem tells_inspectAll (k : Kernel) (round : Nat) (slots : List Slot) :
    k.Tells (k.inspectAll round slots) := by
  induction slots generalizing round with
  | nil => exact tells_pure k []
  | cons s rest ih =>
    refine (tells_inspect k round s).bind fun _ _ => ?_
    exact (ih (round + 1)).bind fun _ _ => tells_pure k _

end Kernel

end HostNet
