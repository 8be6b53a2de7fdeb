import HostNet.DecodeError
import HostNet.Text.Utf8

/-!
The binary form's parts: numbers of a fixed width with the least significant octet first, lengths
as numbers of eight octets, texts as UTF-8 after their length.
-/

namespace HostNet.Binary

def encodeNat : Nat → Nat → List UInt8
  | 0, _ => []
  | width + 1, n => UInt8.ofNat n :: encodeNat width (n / 256)

def decodeNat : List UInt8 → Nat
  | [] => 0
  | b :: rest => b.toNat + 256 * decodeNat rest

def encodeList {α : Type} (item : α → List UInt8) (items : List α) : List UInt8 :=
  encodeNat 8 items.length ++ items.flatMap item

def encodeText (s : String) : List UInt8 :=
  encodeList (fun b => [b]) (Utf8.ofString s)

/-- An octet that says whether the item follows. -/
def encodeOption {α : Type} (item : α → List UInt8) : Option α → List UInt8
  | none => [0]
  | some a => 1 :: item a

abbrev Reader (α : Type) := StateT (List UInt8) (Except DecodeError) α

namespace Reader

variable {α : Type}

def malformed : Reader α :=
  fun _ => .error .malformed

def octets (count : Nat) : Reader (List UInt8) := fun bs =>
  if count ≤ bs.length then .ok (bs.take count, bs.drop count) else .error .malformed

def number (width : Nat) : Reader Nat := do
  let bs ← octets width
  return decodeNat bs

def repeated (item : Reader α) : Nat → Reader (List α)
  | 0 => return []
  | count + 1 => do
    let a ← item
    let others ← repeated item count
    return a :: others

def sequence (item : Reader α) : Reader (List α) := do
  let count ← number 8
  repeated item count

def octetSequence : Reader (List UInt8) := do
  let count ← number 8
  octets count

def text : Reader String := do
  match Utf8.decode? (← octetSequence) with
  | some s => return s
  | none => malformed

def option (item : Reader α) : Reader (Option α) := do
  match ← number 1 with
  | 0 => return none
  | 1 => some <$> item
  | _ => malformed

/-- One of several values, by its position. -/
def choice (values : List α) : Reader α := do
  match values[← number 4]? with
  | some a => return a
  | none => malformed

/-- Reads a value; octets after it are left alone. -/
def run (item : Reader α) (bs : List UInt8) : Except DecodeError α :=
  match item bs with
  | .error e => .error e
  | .ok (a, _) => .ok a

end Reader

end HostNet.Binary
