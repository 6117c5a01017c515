import SIUnits.Text.Pattern

/-! What a console sets off in a text from what is around it: tags, attributes, brackets, addresses,
numbers, truth values, paths, quoted texts and links. The text is written in segments, and a segment
ends wherever something that is set off starts or ends. -/
namespace SIUnits.Console.Highlight

open Text Text.Pattern

def anything : Pattern := one fun _ => true
def word : Pattern := one isWord
def asciiDigit : Pattern := one isAsciiDigit
def digit : Pattern := one isDigit
def hexDigit : Pattern := oneOf "0123456789abcdefABCDEF"

def wordOr (signs : String) : Pattern := one fun c => isWord c || signs.toList.contains c

def tag : Pattern :=
  sequence [mark (char '<'), mark (many (wordOr "-.:|")), mark (many anything), mark (char '>')]

def property : Pattern :=
  sequence [mark (between 1 50 word), char '=',
    optional (mark (sequence [optional (char '"'), oneOrMore word, optional (char '"')]))]

def bracket : Pattern := mark (oneOf "][\x7b\x7d()")

def shortAddress : Pattern :=
  let number := between 1 3 asciiDigit
  mark (sequence [number, char '.', number, char '.', number, char '.', number])

def longAddress : Pattern :=
  let number := between 1 4 hexDigit
  mark (sequence [between 1 7 (sequence [number, char ':', optional (char ':')]), number])

/-- Pairs of hexadecimal digits between hyphens or colons, or half as many groups of four between
full stops; `pairs` and `groups` count all but the last. -/
def hardwareAddress (pairs groups : Nat) : Pattern :=
  let pair := between 1 2 hexDigit
  let group := times 4 hexDigit
  mark (anyOf [andThen (times pairs (andThen pair (char '-'))) pair,
    andThen (times pairs (andThen pair (char ':'))) pair,
    andThen (times groups (andThen group (char '.'))) group])

def uniqueId : Pattern :=
  let group (n : Nat) : Pattern := times n hexDigit
  mark (sequence [group 8, char '-', group 4, char '-', group 4, char '-', group 4, char '-',
    group 12])

def call : Pattern := andThen (mark (few (wordOr "."))) (char '(')

def wholeWord (s : String) : Pattern := sequence [wordEdge, mark (exactly s), wordEdge]

def ellipsis : Pattern := mark (exactly "...")

def numeral : Pattern :=
  sequence [oneOrMore asciiDigit, optional (char '.'), many asciiDigit]

def power (digits : Pattern) : Pattern :=
  optional (sequence [char 'e', optional (oneOf "-+"), digits])

def complexNumber : Pattern :=
  mark (sequence [notAfter isWord, optional (char '-'), numeral, power (oneOrFew digit),
    optional (sequence [oneOf "-+", numeral, power (oneOrMore digit)]), char 'j'])

def number : Pattern :=
  mark (either
    (sequence [notAfter isWord, optional (char '-'), numeral, power (oneOrFew digit), wordEdge])
    (andThen (exactly "0x") (many hexDigit)))

def path : Pattern :=
  let name := wordOr "-._+"
  sequence [
    mark (sequence [noWordEdge, many (andThen (char '/') (oneOrMore name)), char '/']),
    optional (mark (many name))]

/-- A text on one line between two quotes, the second of which comes after no backslash. -/
def quotedBy (quote : String) : Pattern :=
  sequence [optional (char 'b'), exactly quote, few (one (· ≠ '\n')), notAfter (· = '\\'),
    exactly quote]

def quotation : Pattern :=
  andThen (notAfter fun c => c = '\\' || isWord c)
    (mark (anyOf [quotedBy "'''", quotedBy "'", quotedBy "\"\"\"", quotedBy "\""]))

def link : Pattern :=
  mark (sequence [
    anyOf [exactly "file", exactly "https", exactly "http", exactly "ws", exactly "wss"],
    exactly "://",
    many (oneOf ("-0123456789abcdefghijklmnopqrstuvwxyzABCDEFGHIJKLMNOPQRSTUVWXYZ" ++
      "$_+!\x60(),.?/;:&=%#~@"))])

/-- One of the things that exclude each other, rather an earlier one. -/
def token : Pattern :=
  anyOf [shortAddress, longAddress, hardwareAddress 7 3, hardwareAddress 5 2, uniqueId, call,
    anyOf [wholeWord "True", wholeWord "False", wholeWord "None"], ellipsis, complexNumber, number,
    path, quotation, link]

def spans (text : List Char) : List (Nat × Nat) :=
  ([tag, property, bracket, token].flatMap (·.marks text)).filter fun span => span.1 < span.2

def afterTabs (text : List Char) : List Nat :=
  (text.zipIdx 1).filterMap fun (c, i) => if c = '\t' then some i else none

/-- The positions that a span puts cuts at: its start, its end, and after each tab in it. -/
def cutsOf (tabs : List Nat) (span : Nat × Nat) : List Nat :=
  span.1 :: span.2 :: tabs.filter fun i => span.1 < i && i < span.2

def cuts (text : List Char) : List Bool :=
  let positions := (spans text).flatMap (cutsOf (afterTabs text))
  let uncut := Array.replicate text.length false
  (positions.foldl (fun flags i => flags.setIfInBounds i true) uncut).toList

end SIUnits.Console.Highlight
