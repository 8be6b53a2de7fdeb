import HostNet.Address.ColonGroups
import HostNet.Error

/-!
Addresses as text. `parse` reads a plain address and takes the scope from elsewhere; `text` writes
the scope index after a percent sign, and `ofPresentation` reads what `text` writes.
-/

namespace HostNet.Address

/-- Reads an address, given the failure of the platform's converter if it has one. A colon makes
the text IPv6, which takes the scope. -/
def parseWith (fault : Option Errno) (input : String) (scope : UInt32) : Except Error Address :=
  let cs := input.toList
  if '\x00' ∈ cs then .error (.notAnAddress input)
  else
    match fault with
    | some e => .error (.invalidAddress input e.text)
    | none =>
      let found :=
        if ':' ∈ cs then (ColonGroups.read? cs).map (Address.v6 · scope)
        else (DottedQuad.read? cs).map Address.v4
      match found with
      | some a => .ok a
      | none => .error (.notAnAddress input)

def parseScoped (input : String) (scope : UInt32) : Except Error Address :=
  parseWith none input scope

def parse (input : String) : Except Error Address :=
  parseScoped input 0

/-- How many characters a converter may write for each family, its end mark included. -/
structure Room where
  v4 : Nat
  v6 : Nat
  deriving DecidableEq, Repr

def Room.usual : Room := ⟨16, 46⟩

def fitted (room : Nat) (cs : List Char) : Option (List Char) :=
  if cs.length < room then some cs else none

/-- The address as text; empty for an undefined one, and where the room is too small. -/
def textWithin (room : Room) : Address → List Char
  | .unspecified => []
  | .v4 octets => (fitted room.v4 (DottedQuad.write octets)).getD []
  | .v6 octets scope =>
    match fitted room.v6 (ColonGroups.write .platform octets) with
    | none => []
    | some cs => if scope = 0 then cs else cs ++ '%' :: Numeral.decimal scope.toNat

def text (a : Address) : String :=
  String.ofList (a.textWithin .usual)

/-- A scope index: decimal digits after an optional plus sign, below 2³². -/
def scopeIndex? (cs : List Char) : Option UInt32 :=
  let digits := if cs.head? = some '+' then cs.tail else cs
  match Numeral.read? 10 digits with
  | none => none
  | some n => if n < 4294967296 then some (UInt32.ofNat n) else none

/-- Reads what `text` writes: the empty text is the undefined address, and a percent sign after an
IPv6 address is followed by its scope index. -/
def ofPresentation (input : String) : Except Error Address :=
  if input.isEmpty then .ok .unspecified
  else
    match Text.splitAtFirst '%' input.toList with
    | none => parse input
    | some (host, index) =>
      if ':' ∈ host then
        match scopeIndex? index with
        | some scope => parseScoped (String.ofList host) scope
        | none => .error (.invalidAddress input "invalid scope index")
      else .error (.notAnAddress input)

end HostNet.Address
