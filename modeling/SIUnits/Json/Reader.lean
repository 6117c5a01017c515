import SIUnits.Binary64.Arithmetic
import SIUnits.Decimal.Reading
import SIUnits.Value.Basic

/-! Reading JSON. A number with a point or an exponent is the nearest double, any other one a whole
number; a pair of escaped surrogates is one character. The entries of a record are kept as they are
written, in order. -/
namespace SIUnits.Json

def isSpace (c : Char) : Bool := c = ' ' || c = '\n' || c = '\r' || c = '\t'

def skipSpace (cs : List Char) : List Char := cs.dropWhile isSpace

def hexValue? (c : Char) : Option Nat :=
  if '0' ≤ c ∧ c ≤ '9' then some (c.toNat - 48)
  else if 'a' ≤ c ∧ c ≤ 'f' then some (c.toNat - 87)
  else if 'A' ≤ c ∧ c ≤ 'F' then some (c.toNat - 55)
  else none

def readCode : List Char → Option (Nat × List Char)
  | a :: b :: c :: d :: cs => do
    let a ← hexValue? a
    let b ← hexValue? b
    let c ← hexValue? c
    let d ← hexValue? d
    return (4096 * a + 256 * b + 16 * c + d, cs)
  | _ => none

def isHighSurrogate (n : Nat) : Bool := 0xd800 ≤ n && n < 0xdc00
def isLowSurrogate (n : Nat) : Bool := 0xdc00 ≤ n && n < 0xe000

def readEscape : List Char → Option (Char × List Char)
  | '"' :: cs => some ('"', cs)
  | '\\' :: cs => some ('\\', cs)
  | '/' :: cs => some ('/', cs)
  | 'b' :: cs => some ('\x08', cs)
  | 'f' :: cs => some ('\x0c', cs)
  | 'n' :: cs => some ('\n', cs)
  | 'r' :: cs => some ('\r', cs)
  | 't' :: cs => some ('\t', cs)
  | 'u' :: cs => do
    let (n, cs) ← readCode cs
    if isHighSurrogate n then
      match cs with
      | '\\' :: 'u' :: cs =>
        let (m, cs) ← readCode cs
        if isLowSurrogate m then
          return (Char.ofNat (0x10000 + 0x400 * (n - 0xd800) + (m - 0xdc00)), cs)
        else none
      | _ => none
    else if isLowSurrogate n then none
    else return (Char.ofNat n, cs)
  | _ => none

/-- The characters of a string up to its closing quote; at most `n` of them. -/
def readChars : Nat → List Char → Option (List Char × List Char)
  | 0, _ => none
  | n + 1, cs =>
    match cs with
    | [] => none
    | '"' :: cs => some ([], cs)
    | '\\' :: cs => do
      let (c, cs) ← readEscape cs
      let (rest, cs) ← readChars n cs
      return (c :: rest, cs)
    | c :: cs =>
      if c.toNat < 0x20 then none
      else do
        let (rest, cs) ← readChars n cs
        return (c :: rest, cs)

def readString (cs : List Char) : Option (String × List Char) := do
  let (s, cs) ← readChars (cs.length + 1) cs
  return (String.ofList s, cs)

def isNumberChar (c : Char) : Bool :=
  ('0' ≤ c && c ≤ '9') || c = '+' || c = '-' || c = '.' || c = 'e' || c = 'E'

/-- A decimal literal as JSON has them: no plus sign in front, no zero before another digit, and
digits on both sides of a point. -/
def isNumeral (l : Decimal.Literal) : Bool :=
  l.sign ≠ some .plus && l.whole ≠ [] && (l.whole.length = 1 || l.whole.head? ≠ some .zero) &&
    l.fraction ≠ some []

def numberOf (l : Decimal.Literal) : Value :=
  if l.fraction = none ∧ l.exponent = none then
    .integer (if l.isNegative then -(l.coefficient : Int) else l.coefficient)
  else
    .number l.toBinary64

def readNumber (cs : List Char) : Option (Value × List Char) :=
  match Decimal.Literal.ofChars? (cs.takeWhile isNumberChar) with
  | some l => if isNumeral l then some (numberOf l, cs.dropWhile isNumberChar) else none
  | none => none

def words : List (String × Value) :=
  [("null", .null), ("true", .boolean true), ("false", .boolean false), ("NaN", .number .nan),
    ("Infinity", .number (.infinite false)), ("-Infinity", .number (.infinite true))]

def readWord (cs : List Char) : List (String × Value) → Option (Value × List Char)
  | [] => none
  | (word, v) :: rest =>
    if word.toList.isPrefixOf cs then some (v, cs.drop word.toList.length) else readWord cs rest

mutual

/-- A value, and what follows it; values are nested at most `n` deep and wide. -/
def readValue : Nat → List Char → Option (Value × List Char)
  | 0, _ => none
  | n + 1, cs =>
    match skipSpace cs with
    | '"' :: cs => do
      let (s, cs) ← readString cs
      return (.text s, cs)
    | '[' :: cs =>
      match skipSpace cs with
      | ']' :: cs => some (.list [], cs)
      | cs => do
        let (items, cs) ← readItems n cs
        return (.list items, cs)
    | '\x7b' :: cs =>
      match skipSpace cs with
      | '\x7d' :: cs => some (.record [], cs)
      | cs => do
        let (entries, cs) ← readEntries n cs
        return (.record entries, cs)
    | cs => (readWord cs words).or (readNumber cs)

def readItems : Nat → List Char → Option (List Value × List Char)
  | 0, _ => none
  | n + 1, cs => do
    let (v, cs) ← readValue n cs
    match skipSpace cs with
    | ']' :: cs => return ([v], cs)
    | ',' :: cs => do
      let (rest, cs) ← readItems n cs
      return (v :: rest, cs)
    | _ => none

def readEntries : Nat → List Char → Option (List (String × Value) × List Char)
  | 0, _ => none
  | n + 1, cs =>
    match skipSpace cs with
    | '"' :: cs => do
      let (key, cs) ← readString cs
      match skipSpace cs with
      | ':' :: cs => do
        let (v, cs) ← readValue n cs
        match skipSpace cs with
        | '\x7d' :: cs => return ([(key, v)], cs)
        | ',' :: cs => do
          let (rest, cs) ← readEntries n cs
          return ((key, v) :: rest, cs)
        | _ => none
      | _ => none
    | _ => none

end

def read? (s : String) : Option Value := do
  let cs := s.toList
  let (v, rest) ← readValue (2 * cs.length + 1) cs
  if skipSpace rest = [] then return v else none

end SIUnits.Json
