import HostNet.Interface.Grouping
import HostNet.Kernel.Run

/-!
Queries about the interfaces of a host. Each query but the one for the backend's name has the
backend enumerate anew, and answers from what it then finds; nothing is kept between queries.

A `Registry` has the outcomes of the enumerations to come, so a run of queries is a fold over it.
-/

namespace HostNet

inductive Query where
  | all
  | named (name : String)
  | holding (address : Address)
  | localHost
  | source
  deriving DecidableEq, Repr

inductive Reply where
  | interfaces (interfaces : List Interface)
  | found (interface : Option Interface)
  | address (address : Address)
  | source (name : String)
  deriving DecidableEq, Repr

abbrev Enumeration := Except Error (List Entry)

namespace Interface

def findNamed (interfaces : List Interface) (name : String) : Option Interface :=
  interfaces.find? (·.name = name)

/-- The interface that has the address, scope included. -/
def findHolding (interfaces : List Interface) (a : Address) : Option Interface :=
  interfaces.find? (·.hasAddress a)

def firstOutward (interfaces : List Interface) : Option Address :=
  (interfaces.flatMap (·.unicasts)).find? fun a => !a.isLoopback

end Interface

/-- What enumerates the interfaces of a host, with the name of its source. An enumeration may change
the state that the next one starts from. -/
structure Backend (σ : Type) where
  name : String
  enumerate : σ → Run Error (List Entry) × σ

namespace Backend

variable {σ : Type} (b : Backend σ) (state : σ)

def listAll : Run Error (List Interface) × σ :=
  let (found, after) := b.enumerate state
  let listed : Run Error (List Interface) := do
    let entries ← found
    let interfaces := Interface.group entries
    Run.note (.enumerated b.name interfaces.length)
    return interfaces
  (listed, after)

def lookUp (choose : List Interface → Option Interface) : Run Error (Option Interface) × σ :=
  let (listed, after) := b.listAll state
  let found : Run Error (Option Interface) := do
    return choose (← listed)
  (found, after)

def findNamed (name : String) : Run Error (Option Interface) × σ :=
  b.lookUp state (Interface.findNamed · name)

def findHolding (a : Address) : Run Error (Option Interface) × σ :=
  b.lookUp state (Interface.findHolding · a)

/-- The first address that is not a loopback address. A failed enumeration is told as the reason why
the host is unknown. -/
def localHost : Run Error Address × σ :=
  let (listed, after) := b.listAll state
  let found : Run Error Address := do
    let interfaces ← listed.mapError fun cause => .unknownHost cause.message
    match Interface.firstOutward interfaces with
    | some a => return a
    | none => Run.fail (.unknownHost "no non-loopback address is bound to any interface")
  (found, after)

def replied {α : Type} (reply : α → Reply) (r : Run Error α × σ) : Run Error Reply × σ :=
  let answer : Run Error Reply := do
    return reply (← r.1)
  (answer, r.2)

/-- The answer to a query, and the state after it. -/
def ask (q : Query) : Run Error Reply × σ :=
  match q with
  | .all => replied .interfaces (b.listAll state)
  | .named name => replied .found (b.findNamed state name)
  | .holding a => replied .found (b.findHolding state a)
  | .localHost => replied .address (b.localHost state)
  | .source => (return .source b.name, state)

end Backend

/-- The name of a source, and how its enumerations will end; after the last, nothing is found. -/
structure Registry where
  source : String
  outcomes : List Enumeration

namespace Registry

/-- Each enumeration takes the first of the outcomes to come. -/
def backend (r : Registry) : Backend (List Enumeration) where
  name := r.source
  enumerate
    | [] => (return [], [])
    | e :: rest => (⟨[], e⟩, rest)

/-- A query's reply and notes, and the registry after it. -/
def ask (r : Registry) (q : Query) : (Except Error Reply × List Event) × Registry :=
  let (answer, rest) := r.backend.ask r.outcomes q
  ((answer.outcome, answer.events), { r with outcomes := rest })

def askAll (r : Registry) : List Query → List (Except Error Reply × List Event)
  | [] => []
  | q :: rest => (r.ask q).1 :: (r.ask q).2.askAll rest

def describe (source : String) : String :=
  "Registry \x7b backend: " ++ String.ofList (Text.quoted source.toList) ++ " \x7d"

end Registry

end HostNet
