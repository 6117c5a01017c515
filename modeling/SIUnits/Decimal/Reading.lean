import SIUnits.Binary64.Rounding
import SIUnits.Decimal.Literal

/-! The double that a decimal literal denotes: the one nearest to its exact value. -/
namespace SIUnits

-- Powers are the core ones, whatever algebra is in scope.
attribute [local instance (2000)] instPowNat

def Magnitude.nearestDecimal? (c : Nat) : Int → Option Magnitude
  | .ofNat e => nearest? (c * 10 ^ e * stepsInOne) 1
  | .negSucc e => nearest? (c * stepsInOne) (10 ^ (e + 1))

namespace Decimal.Literal

def significantDigits (l : Literal) : Digits := l.digits.dropWhile (· = .zero)

/-- The literal is below `10 ^ leadingPosition`, and at least a tenth of that unless it is
zero. -/
def leadingPosition (l : Literal) : Int := (l.significantDigits.length : Int) + l.power

/-- The size nearest to the exact value, or nothing where that is too large. Values that are
certainly beyond the largest double or below half of the least are decided by the position of their
leading digit, so that no huge power of ten is computed. -/
def size? (l : Literal) : Option Magnitude :=
  if l.significantDigits = [] then some .zero
  else if 310 < l.leadingPosition then none
  else if l.leadingPosition < -330 then some .zero
  else Magnitude.nearestDecimal? l.coefficient l.power

/-- The double nearest to the literal's exact value, infinite where that is too large. -/
def toBinary64 (l : Literal) : Binary64 :=
  match l.size? with
  | some size => .finite l.isNegative size
  | none => .infinite l.isNegative

end Decimal.Literal

end SIUnits
