import HostNet.Address.Presentation
import HostNet.Network

/-!
An address as an interface has it: with the netmask of its network and the address that reaches all
of it, where these are known.
-/

namespace HostNet

structure Binding where
  unicast : Address
  netmask : Option Address
  broadcast : Option Address
  deriving DecidableEq, Repr

namespace Binding

def identity (b : Binding) :
    Address.Identity × Option Address.Identity × Option Address.Identity :=
  (b.unicast.identity, b.netmask.map (·.identity), b.broadcast.map (·.identity))

def network (b : Binding) : Option Network :=
  b.netmask.bind (Network.ofMask? b.unicast)

def text (b : Binding) : String :=
  let length :=
    match b.network with
    | some net => "/" ++ String.ofList (Numeral.decimal net.prefixLength)
    | none => ""
  let broadcast :=
    match b.broadcast with
    | some a => " brd " ++ a.text
    | none => ""
  b.unicast.text ++ length ++ broadcast

end Binding

end HostNet
