import SIUnits.Decimal.Reading
import SIUnits.Text.Blank
import SIUnits.Text.Digit

/-! Texts that are read as doubles at large. Beside the decimal literals these are literals with
white space around them, with digits of other scripts or with underscores between digits, and the
words for the infinities and for what is no number. -/
namespace SIUnits

namespace Text

/-- White space around a number. The separators `0x1c` to `0x1f` do not count here. -/
def isNumberBlank (c : Char) : Bool :=
  isBlank c && !(decide (0x1c ≤ c.toNat) && decide (c.toNat < 0x20))

def stripNumber (cs : List Char) : List Char :=
  ((cs.dropWhile isNumberBlank).reverse.dropWhile isNumberBlank).reverse

/-- The characters without the underscores between two digits, or nothing where an underscore stands
elsewhere. The characters follow `before`. -/
def ungroup? (before : Char) : List Char → Option (List Char)
  | [] => some []
  | c :: cs =>
    if c ≠ '_' then (ungroup? c cs).map (c :: ·)
    else if isAsciiDigit before && cs.head?.any isAsciiDigit then ungroup? c cs
    else none

end Text

namespace Binary64

def ofWord? (cs : List Char) : Option Binary64 :=
  let (sign, word) := Decimal.Sign.scan? cs
  let word := String.ofList (word.map Char.toLower)
  if word = "inf" ∨ word = "infinity" then some (.infinite (sign = some .minus))
  else if word = "nan" then some .nan
  else none

/-- The double that a text is read as. -/
def ofText? (s : String) : Option Binary64 :=
  match Text.ungroup? ' ' ((Text.stripNumber s.toList).map Text.toAsciiDigit) with
  | none => none
  | some cs =>
    match Decimal.Literal.ofChars? cs with
    | some literal => some literal.toBinary64
    | none => ofWord? cs

end Binary64

end SIUnits
