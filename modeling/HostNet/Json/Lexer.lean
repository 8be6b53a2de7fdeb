import HostNet.Json.Token

/-!
The division of text into tokens. It never fails: what starts no token ends the list with a token
of its own, so all that comes before can still be read.
-/

namespace HostNet.Json

def isBlank (c : Char) : Bool :=
  c = ' ' || c = '\t' || c = '\n' || c = '\r'

/-- A piece of a text: a character, or a 16-bit unit that an escape gives by number. -/
inductive Piece where
  | char (c : Char)
  | unit (n : Nat)
  deriving DecidableEq, Repr

def readableEscapes : List (Char × Char) :=
  ('/', '/') :: shortEscapes

/-- The pieces up to the closing quote, and what comes after it. -/
def pieces? : List Char → Option (List Piece × List Char)
  | [] => none
  | '"' :: rest => some ([], rest)
  | '\\' :: 'u' :: a :: b :: c :: d :: rest =>
    match Numeral.read? 16 [a, b, c, d], pieces? rest with
    | some n, some (ps, after) => some (.unit n :: ps, after)
    | _, _ => none
  | '\\' :: letter :: rest =>
    match readableEscapes.lookup letter, pieces? rest with
    | some c, some (ps, after) => some (.char c :: ps, after)
    | _, _ => none
  | c :: rest =>
    if c.toNat < 0x20 || c = '\\' then none
    else (pieces? rest).map fun (ps, after) => (.char c :: ps, after)

def isHighSurrogate (n : Nat) : Bool :=
  0xd800 ≤ n && n < 0xdc00

def isLowSurrogate (n : Nat) : Bool :=
  0xdc00 ≤ n && n < 0xe000

/-- The characters of pieces. Two surrogates, high and low, make one; alone they make none. -/
def characters? : List Piece → Option (List Char)
  | [] => some []
  | .char c :: rest => (characters? rest).map (c :: ·)
  | .unit high :: .unit low :: rest =>
    if isHighSurrogate high then
      if isLowSurrogate low then
        let n := 0x10000 + (high - 0xd800) * 0x400 + (low - 0xdc00)
        (characters? rest).map (Char.ofNat n :: ·)
      else none
    else if isLowSurrogate high then none
    else (characters? (.unit low :: rest)).map (Char.ofNat high :: ·)
  | .unit n :: rest =>
    if isHighSurrogate n || isLowSurrogate n then none
    else (characters? rest).map (Char.ofNat n :: ·)

def digits? (cs : List Char) : Option (List Char × List Char) :=
  let digits := cs.takeWhile Char.isDigit
  if digits.isEmpty then none else some (digits, cs.dropWhile Char.isDigit)

/-- A whole part: a zero, or digits that do not start with one. -/
def whole? : List Char → Option (List Char × List Char)
  | '0' :: rest => some (['0'], rest)
  | cs => digits? cs

def fraction? : List Char → Option (List Char × List Char)
  | '.' :: rest => (digits? rest).map fun (ds, after) => ('.' :: ds, after)
  | cs => some ([], cs)

def isExponentMark (c : Char) : Bool :=
  c = 'e' || c = 'E'

def exponent? : List Char → Option (List Char × List Char)
  | [] => some ([], [])
  | mark :: rest =>
    if isExponentMark mark then
      match rest with
      | sign :: rest' =>
        if sign = '+' || sign = '-' then
          (digits? rest').map fun (ds, after) => (mark :: sign :: ds, after)
        else (digits? rest).map fun (ds, after) => (mark :: ds, after)
      | [] => none
    else some ([], mark :: rest)

def unsigned? (cs : List Char) : Option (List Char × List Char) :=
  match whole? cs with
  | none => none
  | some (whole, cs) =>
    match fraction? cs with
    | none => none
    | some (fraction, cs) =>
      (exponent? cs).map fun (exponent, rest) => (whole ++ fraction ++ exponent, rest)

def number? : List Char → Option (List Char × List Char)
  | '-' :: rest => (unsigned? rest).map fun (cs, after) => ('-' :: cs, after)
  | cs => unsigned? cs

def token? : List Char → Option (Token × List Char)
  | '\x7b' :: rest => some (.opening .brace, rest)
  | '\x7d' :: rest => some (.closing .brace, rest)
  | '[' :: rest => some (.opening .square, rest)
  | ']' :: rest => some (.closing .square, rest)
  | ':' :: rest => some (.colon, rest)
  | ',' :: rest => some (.comma, rest)
  | '"' :: rest =>
    (pieces? rest).map fun (ps, after) =>
      match characters? ps with
      | some cs => (.text cs, after)
      | none => (.unpaired, after)
  | 'n' :: 'u' :: 'l' :: 'l' :: rest => some (.null, rest)
  | 't' :: 'r' :: 'u' :: 'e' :: rest => some (.true, rest)
  | 'f' :: 'a' :: 'l' :: 's' :: 'e' :: rest => some (.false, rest)
  | cs => (number? cs).map fun (lexeme, after) => (.number lexeme, after)

def lex (cs : List Char) : List Token :=
  match cs.dropWhile isBlank with
  | [] => []
  | c :: rest =>
    match token? (c :: rest) with
    | none => [.garbage]
    | some (t, after) => if after.length < cs.length then t :: lex after else [.garbage]
termination_by cs.length

end HostNet.Json
