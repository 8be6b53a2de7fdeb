import HostNet.Interface.Basic

/-!
Entries put together to one interface per name. The first entry of a name makes the interface and
gives its index; the interfaces keep the order in which their names first appear.
-/

namespace HostNet.Interface

def ofEntry (e : Entry) : Interface where
  name := e.name
  displayName := e.name
  index := e.index
  bindings := [e.binding]

/-- Gives the entry to the first interface of its name, or appends a new one. -/
def addEntry : List Interface → Entry → List Interface
  | [], e => [ofEntry e]
  | i :: rest, e =>
    if i.name = e.name then { i with bindings := i.bindings ++ [e.binding] } :: rest
    else i :: addEntry rest e

def group (entries : List Entry) : List Interface :=
  entries.foldl addEntry []

def flatten (interfaces : List Interface) : List Entry :=
  interfaces.flatMap fun i => i.bindings.map fun b => ⟨i.name, i.index, b⟩

end HostNet.Interface
