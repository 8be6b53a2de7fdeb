/-!
Fields divided by a separator. There is one field more than there are separators, so the empty text
is one empty field.
-/

namespace HostNet.Text

/-- The parts of a text between occurrences of `separator`. -/
def fields (separator : Char) : List Char → List (List Char)
  | [] => [[]]
  | c :: cs =>
    if c = separator then [] :: fields separator cs
    else
      match fields separator cs with
      | [] => [[c]]
      | field :: rest => (c :: field) :: rest

def joined (between : List Char) : List (List Char) → List Char
  | [] => []
  | [part] => part
  | part :: next :: rest => part ++ between ++ joined between (next :: rest)

def splitAtFirst (mark : Char) : List Char → Option (List Char × List Char)
  | [] => none
  | c :: cs =>
    if c = mark then some ([], cs)
    else (splitAtFirst mark cs).map fun (before, after) => (c :: before, after)

end HostNet.Text
