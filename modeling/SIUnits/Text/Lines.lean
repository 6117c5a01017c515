/-! Lines of a text. A line ends at a line feed, a carriage return, or both in this order; a text
that ends with a line end has no empty line after it. -/
namespace SIUnits.Text

/-- The lines with `c` put in front of the first, or alone on a line if there is none. -/
def pushChar (c : Char) : List (List Char) → List (List Char)
  | [] => [[c]]
  | line :: rest => (c :: line) :: rest

def splitLines : List Char → List (List Char)
  | [] => []
  | '\r' :: '\n' :: cs => [] :: splitLines cs
  | c :: cs => if c = '\n' ∨ c = '\r' then [] :: splitLines cs else pushChar c (splitLines cs)

def lines (s : String) : List String := (splitLines s.toList).map String.ofList

end SIUnits.Text
