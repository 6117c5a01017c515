import SIUnits.Binary64.Arithmetic
import SIUnits.Value.Display

/-! The numbers that a caller may hand over for conversion: whole numbers of any size, and doubles.
A whole number keeps its own written form in reports. -/
namespace SIUnits

inductive Amount where
  | whole (n : Int)
  | number (x : Binary64)
deriving DecidableEq

namespace Amount

def toBinary64 : Amount → Binary64
  | .whole n => .ofInt n
  | .number x => x

def toValue : Amount → Value
  | .whole n => .integer n
  | .number x => .number x

def text (a : Amount) : String := a.toValue.display

end Amount

end SIUnits
