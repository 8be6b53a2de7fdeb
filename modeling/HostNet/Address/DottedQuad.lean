import HostNet.Address.Basic
import HostNet.Text.Fields
import HostNet.Text.Numeral

/-!
Four decimal octets between dots. A part has no leading zero unless it is a single `0`, so each
four octets have one text.
-/

namespace HostNet.DottedQuad

def octet? (cs : List Char) : Option UInt8 :=
  match Numeral.read? 10 cs with
  | none => none
  | some n =>
    if n < 256 ∧ (cs.head? = some '0' → cs.length = 1) then some (UInt8.ofNat n) else none

def read? (cs : List Char) : Option (Octets 4) :=
  ((Text.fields '.' cs).mapM octet?).bind Octets.ofList?

def write (octets : Octets 4) : List Char :=
  Text.joined ['.'] (octets.toList.map fun b => Numeral.decimal b.toNat)

end HostNet.DottedQuad
