import HostNet.Text.Numeral

/-!
The tokens of JSON text, and the two ways to set them: close together, or one member or element to
a line, with two spaces for each level.
-/

namespace HostNet.Json

inductive Bracket where
  | brace
  | square
  deriving DecidableEq, Repr

inductive Token where
  | opening (b : Bracket)
  | closing (b : Bracket)
  | colon
  | comma
  | text (cs : List Char)
  /-- A text with half of a surrogate pair, which stands for no characters. -/
  | unpaired
  | number (cs : List Char)
  | null
  | true
  | false
  | garbage
  deriving DecidableEq, Repr

/-- The letters that stand for a character after a backslash. -/
def shortEscapes : List (Char × Char) :=
  [('"', '"'), ('\\', '\\'), ('b', '\x08'), ('t', '\t'), ('n', '\n'), ('f', '\x0c'), ('r', '\r')]

/-- A character in a text. Only quotes, backslashes and controls below U+0020 are escaped. -/
def escaped (c : Char) : List Char :=
  match shortEscapes.find? (·.2 = c) with
  | some (letter, _) => ['\\', letter]
  | none =>
    if c.toNat < 0x20 then
      ['\\', 'u', '0', '0', Nat.digitChar (c.toNat / 16), Nat.digitChar (c.toNat % 16)]
    else [c]

namespace Token

def chars : Token → List Char
  | .opening .brace => ['\x7b']
  | .closing .brace => ['\x7d']
  | .opening .square => ['[']
  | .closing .square => [']']
  | .colon => [':']
  | .comma => [',']
  | .text cs => '"' :: cs.flatMap escaped ++ ['"']
  | .number cs => cs
  | .null => ['n', 'u', 'l', 'l']
  | .true => ['t', 'r', 'u', 'e']
  | .false => ['f', 'a', 'l', 's', 'e']
  | .unpaired => []
  | .garbage => []

def ofNat (n : Nat) : Token :=
  .number (Numeral.decimal n)

def ofString (s : String) : Token :=
  .text s.toList

end Token

def compact (ts : List Token) : List Char :=
  ts.flatMap Token.chars

def newLine (level : Nat) : List Char :=
  '\n' :: List.replicate (2 * level) ' '

/-- Tokens by lines; brackets with nothing inside stay together. -/
def pretty (level : Nat) : List Token → List Char
  | [] => []
  | .opening b :: .closing b' :: rest =>
    Token.chars (.opening b) ++ Token.chars (.closing b') ++ pretty level rest
  | .opening b :: rest =>
    Token.chars (.opening b) ++ newLine (level + 1) ++ pretty (level + 1) rest
  | .closing b :: rest =>
    newLine (level - 1) ++ Token.chars (.closing b) ++ pretty (level - 1) rest
  | .comma :: rest => Token.chars .comma ++ newLine level ++ pretty level rest
  | .colon :: rest => Token.chars .colon ++ ' ' :: pretty level rest
  | t :: rest => t.chars ++ pretty level rest

end HostNet.Json
