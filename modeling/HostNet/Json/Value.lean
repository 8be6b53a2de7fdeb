import HostNet.Endpoint
import HostNet.Interface.Basic
import HostNet.Json.Reader
import HostNet.Source

/-!
The JSON forms of the library's values. A record is an object whose members stand in the order of
its fields; an address is its text.
-/

namespace HostNet.Json

def separated : List (List Token) → List Token
  | [] => []
  | [part] => part
  | part :: next :: rest => part ++ .comma :: separated (next :: rest)

def memberTokens (m : String × List Token) : List Token :=
  .ofString m.1 :: .colon :: m.2

def objectTokens (members : List (String × List Token)) : List Token :=
  .opening .brace :: separated (members.map memberTokens) ++ [.closing .brace]

def arrayTokens (elements : List (List Token)) : List Token :=
  .opening .square :: separated elements ++ [.closing .square]

def optionTokens {α : Type} (tokens : α → List Token) : Option α → List Token
  | none => [.null]
  | some a => tokens a

end HostNet.Json

namespace HostNet

open Json Reader

namespace Address

def tokens (a : Address) : List Token :=
  [.ofString a.text]

def reader : Reader Address := do
  let text ← string
  StateT.lift (DecodeError.ofAddress (ofPresentation text))

end Address

namespace Endpoint

def tokens (e : Endpoint) : List Token :=
  objectTokens [("address", e.address.tokens), ("port", [.ofNat e.portNumber.toNat])]

structure Draft where
  address : Option Address
  portNumber : Option Nat

def Draft.member (d : Draft) (key : String) : Reader Draft :=
  match key with
  | "address" => do return { d with address := ← once d.address Address.reader }
  | "port" => do return { d with portNumber := ← once d.portNumber (natural UInt16.size) }
  | _ => do skip; return d

def Draft.finish (d : Draft) : Reader Endpoint :=
  match d.address, d.portNumber with
  | some address, some number => return ⟨address, UInt16.ofNat number⟩
  | _, _ => malformed

def fieldsReader : Reader Endpoint := do
  exactly (.opening .square)
  let address ← Address.reader
  exactly .comma
  let number ← natural UInt16.size
  exactly (.closing .square)
  return ⟨address, UInt16.ofNat number⟩

def reader : Reader Endpoint :=
  record (object Draft.member ⟨none, none⟩ >>= Draft.finish) fieldsReader

end Endpoint

namespace Binding

def tokens (b : Binding) : List Token :=
  objectTokens [("unicast", b.unicast.tokens),
    ("netmask", optionTokens Address.tokens b.netmask),
    ("broadcast", optionTokens Address.tokens b.broadcast)]

structure Draft where
  unicast : Option Address
  netmask : Option (Option Address)
  broadcast : Option (Option Address)

def Draft.member (d : Draft) (key : String) : Reader Draft :=
  match key with
  | "unicast" => do return { d with unicast := ← once d.unicast Address.reader }
  | "netmask" => do return { d with netmask := ← once d.netmask (optional Address.reader) }
  | "broadcast" => do return { d with broadcast := ← once d.broadcast (optional Address.reader) }
  | _ => do skip; return d

/-- A missing netmask or broadcast address is none. -/
def Draft.finish (d : Draft) : Reader Binding :=
  match d.unicast with
  | some unicast => return ⟨unicast, d.netmask.getD none, d.broadcast.getD none⟩
  | none => malformed

def fieldsReader : Reader Binding := do
  exactly (.opening .square)
  let unicast ← Address.reader
  exactly .comma
  let netmask ← optional Address.reader
  exactly .comma
  let broadcast ← optional Address.reader
  exactly (.closing .square)
  return ⟨unicast, netmask, broadcast⟩

def reader : Reader Binding :=
  record (object Draft.member ⟨none, none, none⟩ >>= Draft.finish) fieldsReader

end Binding

namespace Interface

def tokens (i : Interface) : List Token :=
  objectTokens [("name", [.ofString i.name]), ("display_name", [.ofString i.displayName]),
    ("index", [.ofNat i.index.toNat]), ("addresses", arrayTokens (i.bindings.map Binding.tokens))]

structure Draft where
  name : Option String
  displayName : Option String
  index : Option Nat
  bindings : Option (List Binding)

def Draft.member (d : Draft) (key : String) : Reader Draft :=
  match key with
  | "name" => do return { d with name := ← once d.name string }
  | "display_name" => do return { d with displayName := ← once d.displayName string }
  | "index" => do return { d with index := ← once d.index (natural UInt32.size) }
  | "addresses" => do return { d with bindings := ← once d.bindings (array Binding.reader) }
  | _ => do skip; return d

def Draft.finish (d : Draft) : Reader Interface :=
  match d.name, d.displayName, d.index, d.bindings with
  | some name, some displayName, some index, some bindings =>
    return ⟨name, displayName, UInt32.ofNat index, bindings⟩
  | _, _, _, _ => malformed

def fieldsReader : Reader Interface := do
  exactly (.opening .square)
  let name ← string
  exactly .comma
  let displayName ← string
  exactly .comma
  let index ← natural UInt32.size
  exactly .comma
  let bindings ← array Binding.reader
  exactly (.closing .square)
  return ⟨name, displayName, UInt32.ofNat index, bindings⟩

def reader : Reader Interface :=
  record (object Draft.member ⟨none, none, none, none⟩ >>= Draft.finish) fieldsReader

end Interface

namespace Family

def variants : List (String × Family) :=
  [("Unspecified", .unspecified), ("Ipv4", .ipv4), ("Ipv6", .ipv6)]

def tokens : Family → List Token
  | .unspecified => [.ofString "Unspecified"]
  | .ipv4 => [.ofString "Ipv4"]
  | .ipv6 => [.ofString "Ipv6"]

def reader : Reader Family :=
  choice variants

end Family

namespace SourceKind

def variants : List (String × SourceKind) :=
  [("IfAddrs", .list), ("IfConf", .configuration)]

def tokens : SourceKind → List Token
  | .list => [.ofString "IfAddrs"]
  | .configuration => [.ofString "IfConf"]

def reader : Reader SourceKind :=
  choice variants

end SourceKind

end HostNet
