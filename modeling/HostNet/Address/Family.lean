/-!
The families of addresses, with the numbers that the system interfaces use for them.
-/

namespace HostNet

inductive Family where
  | unspecified
  | ipv4
  | ipv6
  deriving DecidableEq, Repr

namespace Family

def all : List Family := [.unspecified, .ipv4, .ipv6]

def number : Family → Int
  | .unspecified => 0
  | .ipv4 => 2
  | .ipv6 => 10

def ofNumber? (n : Int) : Option Family :=
  all.find? (·.number = n)

def name : Family → String
  | .unspecified => "unspecified"
  | .ipv4 => "ipv4"
  | .ipv6 => "ipv6"

end Family

end HostNet
