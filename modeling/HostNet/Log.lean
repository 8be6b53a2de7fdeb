import HostNet.Text.Quoted

/-!
What an enumeration notes while it runs, and the line that each note is written as.
-/

namespace HostNet

inductive Event where
  | withoutAddress (interface : String)
  | foreignFamily (interface : String) (family : Nat)
  | notIpv4 (interface : String) (family : Nat)
  | down (interface : String)
  | listed (entries : Nat)
  /-- A buffer was too small, or not yet known to be large enough. -/
  | grown (capacity : Nat) (lastLength : Option Nat)
  /-- All slots of a buffer were looked into. -/
  | configured (reported entries : Nat)
  | enumerated (source : String) (interfaces : Nat)
  deriving DecidableEq, Repr

namespace Event

def lengthText : Option Nat → String
  | none => "None"
  | some n => "Some(" ++ toString n ++ ")"

def text : Event → String
  | .withoutAddress interface => "TRACE skipping entry without address interface=" ++ interface
  | .foreignFamily interface family =>
    "TRACE skipping non-IP entry interface=" ++ interface ++ " family=" ++ toString family
  | .notIpv4 interface family =>
    "TRACE skipping non-IPv4 entry interface=" ++ interface ++ " family=" ++ toString family
  | .down interface =>
    "TRACE skipping entry of interface that is down interface=" ++ interface
  | .listed entries => "DEBUG getifaddrs enumeration complete entries=" ++ toString entries
  | .grown capacity lastLength =>
    "TRACE growing SIOCGIFCONF buffer capacity=" ++ toString capacity ++
      " last_len=" ++ lengthText lastLength
  | .configured reported entries =>
    "DEBUG SIOCGIFCONF enumeration complete reported=" ++ toString reported ++
      " entries=" ++ toString entries
  | .enumerated source interfaces =>
    "DEBUG enumerated interfaces backend=" ++ source ++ " interfaces=" ++ toString interfaces

end Event

end HostNet
