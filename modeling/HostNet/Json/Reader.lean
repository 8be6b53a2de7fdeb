import HostNet.DecodeError
import HostNet.Json.Lexer

/-!
Readers of values from tokens. Members of an object are taken in the order of the text, and the
first one that is at fault decides how reading fails.
-/

namespace HostNet.Json

abbrev Reader (α : Type) := StateT (List Token) (Except DecodeError) α

namespace Reader

variable {α σ : Type}

def malformed : Reader α :=
  fun _ => .error .malformed

def exactly (t : Token) : Reader Unit
  | t' :: rest => if t' = t then .ok ((), rest) else .error .malformed
  | [] => .error .malformed

def chars : Reader (List Char)
  | .text cs :: rest => .ok (cs, rest)
  | _ => .error .malformed

def string : Reader String := do
  let cs ← chars
  return String.ofList cs

/-- A whole number below `bound`, written with digits alone. -/
def natural (bound : Nat) : Reader Nat
  | .number cs :: rest =>
    match Numeral.read? 10 cs with
    | some n => if n < bound then .ok (n, rest) else .error .malformed
    | none => .error .malformed
  | _ => .error .malformed

def optional (value : Reader α) : Reader (Option α)
  | .null :: rest => .ok (none, rest)
  | ts => (some <$> value) ts

def once (before : Option α) (value : Reader α) : Reader (Option α) :=
  match before with
  | some _ => malformed
  | none => some <$> value

inductive Expected where
  | value
  | elementOrEnd
  | keyOrEnd
  | key
  | colon
  | separator

/-- Passes over the rest of a value inside the open brackets `stack`, innermost first. -/
def skipFrom (expected : Expected) (stack : List Bracket) : List Token → Option (List Token)
  | [] => none
  | t :: rest =>
    let afterValue (stack : List Bracket) : Option (List Token) :=
      if stack.isEmpty then some rest else skipFrom .separator stack rest
    let value : Option (List Token) :=
      match t with
      | .opening .brace => skipFrom .keyOrEnd (.brace :: stack) rest
      | .opening .square => skipFrom .elementOrEnd (.square :: stack) rest
      | .text _ | .unpaired | .number _ | .null | .true | .false => afterValue stack
      | _ => none
    let key : Option (List Token) :=
      match t with
      | .text _ | .unpaired => skipFrom .colon stack rest
      | _ => none
    let close : Option (List Token) :=
      match t, stack with
      | .closing b, b' :: outer => if b = b' then afterValue outer else none
      | _, _ => none
    match expected with
    | .value => value
    | .elementOrEnd => if t = .closing .square then close else value
    | .keyOrEnd => if t = .closing .brace then close else key
    | .key => key
    | .colon => if t = .colon then skipFrom .value stack rest else none
    | .separator =>
      if t = .comma then
        match stack with
        | .brace :: _ => skipFrom .key stack rest
        | .square :: _ => skipFrom .value stack rest
        | [] => none
      else close

def skip : Reader Unit := fun ts =>
  match skipFrom .value [] ts with
  | some rest => .ok ((), rest)
  | none => .error .malformed

/-- The members of an object from a key on. `member` reads the value that belongs to a key. -/
def members (member : σ → String → Reader σ) (s : σ) (ts : List Token) :
    Except DecodeError (σ × List Token) :=
  match ts with
  | .text key :: .colon :: rest =>
    match member s (String.ofList key) rest with
    | .error e => .error e
    | .ok (s, .closing .brace :: after) => .ok (s, after)
    | .ok (s, .comma :: after) =>
      if after.length < rest.length then members member s after else .error .malformed
    | .ok _ => .error .malformed
  | _ => .error .malformed
termination_by ts.length

def object (member : σ → String → Reader σ) (s : σ) : Reader σ
  | .opening .brace :: .closing .brace :: rest => .ok (s, rest)
  | .opening .brace :: rest => members member s rest
  | _ => .error .malformed

def elements (element : Reader α) (ts : List Token) : Except DecodeError (List α × List Token) :=
  match element ts with
  | .error e => .error e
  | .ok (a, .closing .square :: after) => .ok ([a], after)
  | .ok (a, .comma :: after) =>
    if after.length < ts.length then
      match elements element after with
      | .error e => .error e
      | .ok (others, rest) => .ok (a :: others, rest)
    else .error .malformed
  | .ok _ => .error .malformed
termination_by ts.length

def array (element : Reader α) : Reader (List α)
  | .opening .square :: .closing .square :: rest => .ok ([], rest)
  | .opening .square :: rest => elements element rest
  | _ => .error .malformed

/-- A record, as an object or as an array of its fields. -/
def record (byMembers byFields : Reader α) : Reader α := fun ts =>
  match ts with
  | .opening .brace :: _ => byMembers ts
  | .opening .square :: _ => byFields ts
  | _ => .error .malformed

/-- One of several named values: the name alone, or an object with it as the only key and `null`
beside it. -/
def choice (names : List (String × α)) : Reader α := do
  let named (name : String) : Reader α :=
    match names.lookup name with
    | some a => pure a
    | none => malformed
  match ← get with
  | .opening .brace :: _ => do
    exactly (.opening .brace)
    let a ← named (← string)
    exactly .colon
    exactly .null
    exactly (.closing .brace)
    return a
  | _ => named (← string)

def run (value : Reader α) (text : String) : Except DecodeError α :=
  match value (lex text.toList) with
  | .error e => .error e
  | .ok (a, []) => .ok a
  | .ok _ => .error .malformed

end Reader

end HostNet.Json
