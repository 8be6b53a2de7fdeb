import HostNet.Address.ColonGroups

/-!
Addresses as other libraries have them: always of a family, and without a scope.
-/

namespace HostNet

inductive StandardAddress where
  | v4 (octets : Octets 4)
  | v6 (octets : Octets 16)
  deriving DecidableEq, Repr

namespace StandardAddress

def chars : StandardAddress → List Char
  | .v4 octets => DottedQuad.write octets
  | .v6 octets => ColonGroups.write .standard octets

def text (a : StandardAddress) : String :=
  String.ofList a.chars

end StandardAddress

namespace Address

def standard? : Address → Option StandardAddress
  | .unspecified => none
  | .v4 octets => some (.v4 octets)
  | .v6 octets _ => some (.v6 octets)

def ofStandard : StandardAddress → Address
  | .v4 octets => .v4 octets
  | .v6 octets => .v6 octets 0

end Address

end HostNet
