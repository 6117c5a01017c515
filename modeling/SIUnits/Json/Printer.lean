import SIUnits.Decimal.Layout
import SIUnits.Value.Basic

/-! Values as indented JSON. Each item of a list or record stands on a line of its own, two columns
further in than the brackets; empty ones are written on one line. Numbers have the text of a double,
with the three words that JSON readers commonly take for the ones that are not finite. -/
namespace SIUnits.Json

/-- Which characters a JSON text may hold as they are: the printable ones of ASCII, or all but the
control characters below the space. -/
inductive Charset where
  | ascii
  | unicode
deriving DecidableEq

def hexEscape (n : Nat) : List Char :=
  ['\\', 'u', Nat.digitChar (n / 4096 % 16), Nat.digitChar (n / 256 % 16),
    Nat.digitChar (n / 16 % 16), Nat.digitChar (n % 16)]

/-- A character above `0xffff` is escaped as the pair of its surrogates. -/
def escape (n : Nat) : List Char :=
  if n < 0x10000 then hexEscape n
  else hexEscape (0xd800 + (n - 0x10000) / 0x400) ++ hexEscape (0xdc00 + (n - 0x10000) % 0x400)

def char (charset : Charset) (c : Char) : List Char :=
  if c = '"' ∨ c = '\\' then ['\\', c]
  else if c = '\n' then ['\\', 'n']
  else if c = '\r' then ['\\', 'r']
  else if c = '\t' then ['\\', 't']
  else if c.toNat = 8 then ['\\', 'b']
  else if c.toNat = 12 then ['\\', 'f']
  else if c.toNat < 0x20 then hexEscape c.toNat
  else if c.toNat < 0x7f ∨ charset = .unicode then [c]
  else escape c.toNat

def string (charset : Charset) (s : String) : List Char :=
  '"' :: (s.toList.flatMap (char charset) ++ ['"'])

def number : Binary64 → List Char
  | .nan => "NaN".toList
  | .infinite false => "Infinity".toList
  | .infinite true => "-Infinity".toList
  | x => x.text.toList

def newline (depth : Nat) : List Char := '\n' :: List.replicate (2 * depth) ' '

def bracketed (opening closing : Char) (depth : Nat) : List (List Char) → List Char
  | [] => [opening, closing]
  | items =>
    opening :: (newline (depth + 1) ++ (',' :: newline (depth + 1)).intercalate items ++
      newline depth ++ [closing])

mutual

def value (charset : Charset) (depth : Nat) : Value → List Char
  | .null => "null".toList
  | .boolean b => (if b then "true" else "false").toList
  | .integer n => Decimal.integer n
  | .number x => number x
  | .text s => string charset s
  | .list items => bracketed '[' ']' depth (values charset (depth + 1) items)
  | .record entries => bracketed '\x7b' '\x7d' depth (fields charset (depth + 1) entries)

def values (charset : Charset) (depth : Nat) : List Value → List (List Char)
  | [] => []
  | v :: rest => value charset depth v :: values charset depth rest

def fields (charset : Charset) (depth : Nat) : List (String × Value) → List (List Char)
  | [] => []
  | (key, v) :: rest =>
    (string charset key ++ ':' :: ' ' :: value charset depth v) :: fields charset depth rest

end

def render (charset : Charset) (v : Value) : String := String.ofList (value charset 0 v)

end SIUnits.Json
