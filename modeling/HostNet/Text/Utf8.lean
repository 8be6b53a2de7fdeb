/-!
UTF-8 as lists of octets, and the reading of octets that need not be UTF-8: each longest piece that
starts no character, or breaks one off, becomes one replacement character.
-/

namespace HostNet.Utf8

def encode (cs : List Char) : List UInt8 :=
  cs.flatMap String.utf8EncodeChar

def isContinuation (b : UInt8) : Bool :=
  0x80 ≤ b && b ≤ 0xbf

def width? (b : UInt8) : Option Nat :=
  if b ≤ 0x7f then some 1
  else if 0xc2 ≤ b && b ≤ 0xdf then some 2
  else if 0xe0 ≤ b && b ≤ 0xef then some 3
  else if 0xf0 ≤ b && b ≤ 0xf4 then some 4
  else none

/-- Whether `b` may follow the leading octet: the range leaves out overlong forms, surrogates and
numbers past the last character. -/
def mayFollow (leading b : UInt8) : Bool :=
  if leading = 0xe0 then 0xa0 ≤ b && b ≤ 0xbf
  else if leading = 0xed then 0x80 ≤ b && b ≤ 0x9f
  else if leading = 0xf0 then 0x90 ≤ b && b ≤ 0xbf
  else if leading = 0xf4 then 0x80 ≤ b && b ≤ 0x8f
  else isContinuation b

/-- How many of the octets after `leading` still belong to the character that it starts. -/
def belonging (leading : UInt8) (rest : List UInt8) : Nat :=
  match width? leading, rest with
  | some width, next :: rest =>
    if 1 < width && mayFollow leading next then
      1 + ((rest.take (width - 2)).takeWhile isContinuation).length
    else 0
  | _, _ => 0

def scalar (leading : UInt8) (others : List UInt8) : Nat :=
  let start :=
    match others.length with
    | 0 => leading.toNat
    | 1 => leading.toNat % 0x20
    | 2 => leading.toNat % 0x10
    | _ => leading.toNat % 0x08
  others.foldl (fun value b => value * 0x40 + b.toNat % 0x40) start

/-- Reads every octet list; what is no UTF-8 shows as replacement characters. -/
def repair : List UInt8 → List Char
  | [] => []
  | leading :: rest =>
    let count := belonging leading rest
    let c :=
      if width? leading = some (count + 1) then Char.ofNat (scalar leading (rest.take count))
      else '\ufffd'
    c :: repair (rest.drop count)
termination_by octets => octets.length
decreasing_by simp only [List.length_drop, List.length_cons]; omega

def decode? (octets : List UInt8) : Option String :=
  String.fromUTF8? ⟨octets.toArray⟩

def ofString (s : String) : List UInt8 :=
  s.toByteArray.data.toList

end HostNet.Utf8
