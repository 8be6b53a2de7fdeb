import HostNet.Text.Extending
import HostNet.Text.Numeral
import HostNet.Text.Unprintable

/-!
Text shown between quotation marks, such that it can be told apart from what surrounds it. A quote,
a backslash and four control characters have a short escape; any other character that extends its
neighbour or has no visible form is given by its number, in braces.
-/

namespace HostNet.Text

/-- The escapes of one letter after the backslash, with the character that each stands for. -/
def shortEscapes : List (Char × Char) :=
  [('"', '"'), ('\\', '\\'), ('t', '\t'), ('r', '\r'), ('n', '\n'), ('0', '\x00')]

def escaped (c : Char) : List Char :=
  match shortEscapes.find? (·.2 = c) with
  | some (letter, _) => ['\\', letter]
  | none =>
    if isExtending c || isUnprintable c then
      ['\\', 'u', '\x7b'] ++ Numeral.hexadecimal c.toNat ++ ['\x7d']
    else [c]

def quoted (cs : List Char) : List Char :=
  '"' :: cs.flatMap escaped ++ ['"']

end HostNet.Text
