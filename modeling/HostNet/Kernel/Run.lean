import HostNet.Kernel.Basic
import HostNet.Log

/-!
A run of work on the kernel: the calls made and the events noted, in order, and how it ended. Work
that fails stops there, with what it has done so far.
-/

namespace HostNet

inductive Request where
  | flags
  | netmask
  | broadcast
  | index
  deriving DecidableEq, Repr

def Request.name : Request → String
  | .flags => "SIOCGIFFLAGS"
  | .netmask => "SIOCGIFNETMASK"
  | .broadcast => "SIOCGIFBRDADDR"
  | .index => "SIOCGIFINDEX"

inductive Call where
  | list
  | freeList
  | indexOf (name : RawName)
  | openSocket
  | configuration (capacity : Nat)
  | request (request : Request) (name : RawName)
  | closeSocket
  deriving DecidableEq, Repr

def Call.text : Call → String
  | .list => "getifaddrs"
  | .freeList => "freeifaddrs"
  | .indexOf name => "if_nametoindex:" ++ name.text
  | .openSocket => "socket:2:2:0"
  | .configuration capacity => "SIOCGIFCONF:" ++ toString capacity
  | .request r name => r.name ++ ":" ++ name.text
  | .closeSocket => "close"

inductive Step where
  | called (call : Call) (fault : Option OsError)
  | noted (event : Event)
  deriving DecidableEq, Repr

namespace Step

def call? : Step → Option Call
  | .called call _ => some call
  | .noted _ => none

def event? : Step → Option Event
  | .called _ _ => none
  | .noted event => some event

end Step

structure Run (ε α : Type) where
  steps : List Step
  outcome : Except ε α

namespace Run

variable {ε ε' α β : Type}

def calls (r : Run ε α) : List Call :=
  r.steps.filterMap Step.call?

def events (r : Run ε α) : List Event :=
  r.steps.filterMap Step.event?

def pure (a : α) : Run ε α :=
  ⟨[], .ok a⟩

def bind (r : Run ε α) (f : α → Run ε β) : Run ε β :=
  match r.outcome with
  | .error e => ⟨r.steps, .error e⟩
  | .ok a => ⟨r.steps ++ (f a).steps, (f a).outcome⟩

instance : Monad (Run ε) where
  pure := Run.pure
  bind := Run.bind

def mapError (f : ε → ε') (r : Run ε α) : Run ε' α :=
  ⟨r.steps, r.outcome.mapError f⟩

def fail (e : ε) : Run ε α :=
  ⟨[], .error e⟩

def note (event : Event) : Run ε Unit :=
  ⟨[.noted event], .ok ()⟩

def call (c : Call) (answer : Except ε α) (fault : ε → OsError) : Run ε α :=
  match answer with
  | .ok a => ⟨[.called c none], .ok a⟩
  | .error e => ⟨[.called c (some (fault e))], .error e⟩

def answered (c : Call) (a : α) : Run ε α :=
  ⟨[.called c none], .ok a⟩

/-- Makes one more call at the end, however the work ended. -/
def endingWith (r : Run ε α) (c : Call) : Run ε α :=
  ⟨r.steps ++ [.called c none], r.outcome⟩

end Run

end HostNet
