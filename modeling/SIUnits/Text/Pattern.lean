import SIUnits.Text.Word

/-! Patterns: descriptions of stretches of text. A pattern has an order of preference among the
stretches that it fits at one place, and the first of them is taken with which the rest of the whole
pattern fits too. Parts of a pattern may be marked; the places of the marked parts are found with
the stretch. -/
namespace SIUnits.Text

/-- A place in a text, and what was marked on the way to it. -/
structure Cursor where
  /-- The character before the place, if it is not the start of the text. -/
  before : Option Char
  rest : List Char
  position : Nat
  /-- The first positions of the marked parts and the positions after them. -/
  marks : List (Nat × Nat)

/-- A pattern tries the places after it in its order of preference and gives the first success. -/
abbrev Pattern := Cursor → (Cursor → Option Cursor) → Option Cursor

namespace Cursor

def atWordEdge (c : Cursor) : Bool := c.before.any isWord != c.rest.head?.any isWord

end Cursor

namespace Pattern

def one (set : Char → Bool) : Pattern := fun c next =>
  match c.rest with
  | [] => none
  | d :: rest => if set d then next ⟨some d, rest, c.position + 1, c.marks⟩ else none

def nowhereBut (condition : Cursor → Bool) : Pattern := fun c next =>
  if condition c then next c else none

/-- Nothing, unless it comes after a character of a set. -/
def notAfter (set : Char → Bool) : Pattern := nowhereBut fun c => !c.before.any set

def wordEdge : Pattern := nowhereBut Cursor.atWordEdge

def noWordEdge : Pattern := nowhereBut fun c => !c.atWordEdge

def andThen (p q : Pattern) : Pattern := fun c next => p c fun d => q d next

def sequence (ps : List Pattern) : Pattern := ps.foldr andThen fun c next => next c

def either (p q : Pattern) : Pattern := fun c next => (p c next).or (q c next)

def anyOf (ps : List Pattern) : Pattern := ps.foldr either fun _ _ => none

def optional (p : Pattern) : Pattern := fun c next => (p c next).or (next c)

/-- The pattern as often as possible, but no more than the given number of times. -/
def upTo (p : Pattern) : Nat → Pattern
  | 0, c, next => next c
  | n + 1, c, next => (p c fun d => upTo p n d next).or (next c)

/-- The pattern as often as needed, but no more than the given number of times. -/
def fewUpTo (p : Pattern) : Nat → Pattern
  | 0, c, next => next c
  | n + 1, c, next => (next c).or (p c fun d => fewUpTo p n d next)

def times (n : Nat) (p : Pattern) : Pattern := sequence (List.replicate n p)

def between (least most : Nat) (p : Pattern) : Pattern :=
  andThen (times least p) (upTo p (most - least))

/-- The pattern as often as possible; each time takes a character at least. -/
def many (p : Pattern) : Pattern := fun c => upTo p c.rest.length c

def oneOrMore (p : Pattern) : Pattern := andThen p (many p)

/-- The pattern as often as needed; each time takes a character at least. -/
def few (p : Pattern) : Pattern := fun c => fewUpTo p c.rest.length c

def oneOrFew (p : Pattern) : Pattern := andThen p (few p)

def char (d : Char) : Pattern := one (· = d)

def oneOf (s : String) : Pattern := one s.toList.contains

def exactly (s : String) : Pattern := sequence (s.toList.map char)

/-- The pattern, with its place marked. -/
def mark (p : Pattern) : Pattern := fun c next =>
  p c fun d => next { d with marks := (c.position, d.position) :: d.marks }

/-- The marks of all stretches that the pattern fits, from the left to the right. After each of
them the search goes on at its end; `skipped` characters still belong to the last one. -/
def marksFrom (p : Pattern) (before : Option Char) (position skipped : Nat) :
    List Char → List (Nat × Nat)
  | [] => []
  | c :: cs =>
    match skipped with
    | n + 1 => marksFrom p (some c) (position + 1) n cs
    | 0 =>
      match p ⟨before, c :: cs, position, []⟩ some with
      | none => marksFrom p (some c) (position + 1) 0 cs
      | some d =>
        d.marks ++ marksFrom p (some c) (position + 1) (d.position - position - 1) cs

def marks (p : Pattern) (text : List Char) : List (Nat × Nat) := p.marksFrom none 0 0 text

end Pattern

end SIUnits.Text
