import HostNet.Kernel.Configuration
import HostNet.Kernel.List
import HostNet.Registry

/-!
The ways to enumerate a host's interfaces, and queries over each of them.
-/

namespace HostNet

inductive SourceKind where
  | list
  | configuration
  deriving DecidableEq, Repr

namespace SourceKind

def all : List SourceKind := [.list, .configuration]

def name : SourceKind → String
  | .list => "ifaddrs"
  | .configuration => "ifconf"

end SourceKind

/-- A source with its setting: how many slots a configuration call offers first. -/
inductive Source where
  | list
  | configuration (initial : Nat)
  deriving DecidableEq, Repr

namespace Source

/-- Offers the given number of slots first, but at least one. -/
def withCapacity (slots : Nat) : Source :=
  .configuration (max slots 1)

def ofKind : SourceKind → Source
  | .list => .list
  | .configuration => withCapacity 16

def usual : Source := .list

def name : Source → String
  | .list => "getifaddrs"
  | .configuration _ => "SIOCGIFCONF"

def capacity? : Source → Option Nat
  | .list => none
  | .configuration initial => some initial

def enumerate (s : Source) (k : Kernel) : Run Error (List Entry) :=
  match s with
  | .list => k.entriesByList
  | .configuration initial => k.entriesByConfiguration initial

/-- The source over a kernel, asked anew each time. -/
def backend (s : Source) (k : Kernel) : Backend Unit where
  name := s.name
  enumerate _ := (s.enumerate k, ())

def ask (s : Source) (k : Kernel) (q : Query) : Run Error Reply :=
  ((s.backend k).ask () q).1

end Source

end HostNet
