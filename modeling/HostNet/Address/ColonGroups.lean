import HostNet.Address.DottedQuad

/-!
Eight groups of two octets in hexadecimal, between colons. A double colon stands for the zero
groups that are missing, at least one, and a dotted quad may take the place of the last two groups.

Writers agree on the double colon: it stands for the first of the longest runs of two or more zero
groups. They differ on when the dotted quad is written.
-/

namespace HostNet.ColonGroups

def group? (cs : List Char) : Option (List UInt8) :=
  match Numeral.read? 16 cs with
  | none => none
  | some n =>
    if cs.length ≤ 4 then some [UInt8.ofNat (n / 256), UInt8.ofNat (n % 256)] else none

def last? (cs : List Char) : Option (List UInt8) :=
  match group? cs with
  | some octets => some octets
  | none => (DottedQuad.read? cs).map (·.toList)

/-- The octets of parts in order, the last of which may be a dotted quad if `quad` says so. -/
def parts? (quad : Bool) : List (List Char) → Option (List UInt8)
  | [] => some []
  | [part] => if quad then last? part else group? part
  | part :: rest =>
    match group? part, parts? quad rest with
    | some octets, some others => some (octets ++ others)
    | _, _ => none

/-- One side of a double colon; an empty side has no groups. -/
def side? (quad : Bool) (cs : List Char) : Option (List UInt8) :=
  if cs.isEmpty then some [] else parts? quad (Text.fields ':' cs)

def splitAtElision : List Char → Option (List Char × List Char)
  | ':' :: ':' :: after => some ([], after)
  | c :: cs => (splitAtElision cs).map fun (before, after) => (c :: before, after)
  | [] => none

def read? (cs : List Char) : Option (Octets 16) :=
  match splitAtElision cs with
  | none => (side? true cs).bind Octets.ofList?
  | some (before, after) =>
    match side? false before, side? true after with
    | some front, some back =>
      if front.length + back.length ≤ 14 then
        let zeros := List.replicate (16 - (front.length + back.length)) 0
        Octets.ofList? (front ++ zeros ++ back)
      else none
    | _, _ => none

def groups : List UInt8 → List Nat
  | high :: low :: rest => (high.toNat * 256 + low.toNat) :: groups rest
  | _ => []

/-- Where the first of the longest runs of zeros starts, and how long it is. -/
def longestZeroRun : List Nat → Nat × Nat
  | [] => (0, 0)
  | g :: rest =>
    let here := ((g :: rest).takeWhile (· = 0)).length
    let (start, length) := longestZeroRun rest
    if length ≤ here then (0, here) else (start + 1, length)

/-- Which addresses end in a dotted quad: mapped ones (five zero groups, then `ffff`) always, and
compatible ones (six zero groups) in the platform's form. -/
inductive Style where
  | platform
  | standard
  deriving DecidableEq, Repr

def Style.endsDotted (style : Style) (gs : List Nat) : Bool :=
  match longestZeroRun gs with
  | (0, 5) => gs[5]? = some 0xffff
  | (0, 6) => style = .platform
  | _ => false

def write (style : Style) (octets : Octets 16) : List Char :=
  let gs := groups octets.toList
  let texts :=
    if style.endsDotted gs then
      (gs.take 6).map Numeral.hexadecimal ++ [DottedQuad.write octets.lastFour]
    else gs.map Numeral.hexadecimal
  match longestZeroRun gs with
  | (start, length) =>
    if length < 2 then Text.joined [':'] texts
    else
      Text.joined [':'] (texts.take start) ++ [':', ':'] ++
        Text.joined [':'] (texts.drop (start + length))

end HostNet.ColonGroups
