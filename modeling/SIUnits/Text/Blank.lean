import SIUnits.Text.CodeRange

/-! White space of Unicode: the characters that may be left out at either end of an input line. -/
namespace SIUnits.Text

/-- The ranges of white space. The separators `0x1c` to `0x1f` count; the zero-width space and the
byte order mark do not. -/
def blank : List CodeRange :=
  [(0x9, 0xd), (0x1c, 0x20), (0x85, 0x85), (0xa0, 0xa0), (0x1680, 0x1680), (0x2000, 0x200a),
    (0x2028, 0x2029), (0x202f, 0x202f), (0x205f, 0x205f), (0x3000, 0x3000)]

def isBlank (c : Char) : Bool := inRanges blank c

def stripEnd (cs : List Char) : List Char := (cs.reverse.dropWhile isBlank).reverse

def strip (s : String) : String := String.ofList (stripEnd (s.toList.dropWhile isBlank))

end SIUnits.Text
