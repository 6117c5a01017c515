import SIUnits.Binary64.Basic

/-! Rounding to the nearest double, ties to even. The exact value is a quotient of two natural
numbers, counted in steps of `2 ^ -1074`; every operation on doubles and every reading of a decimal
goes through `Magnitude.nearest?`, so the two agree on what "nearest" means. -/
namespace SIUnits

-- Powers are the core ones, whatever algebra is in scope.
attribute [local instance (2000)] instPowNat

/-- The natural number nearest to `n / d`; halfway between two, the even one. -/
def roundHalfEven (n d : Nat) : Nat :=
  let low := n / d
  let rest := 2 * (n % d)
  if rest < d then low
  else if d < rest then low + 1
  else low + low % 2

namespace Magnitude

/-- The scale of the doubles around `n / d` steps: the one at which the significand has 53 bits,
or the finest where it would have fewer. -/
def scaleAt (n d : Nat) : Nat := (n / d).log2 - 52

/-- The size nearest to `n / d` steps, or nothing from half a unit above the largest double on. -/
def nearest? (n d : Nat) : Option Magnitude :=
  let scale := scaleAt n d
  let significand := roundHalfEven n (d * 2 ^ scale)
  if significand = 2 ^ (53 : Nat) then ofParts? (2 ^ (52 : Nat)) (scale + 1)
  else ofParts? significand scale

end Magnitude

namespace Binary64

def nearest (negative : Bool) (n d : Nat) : Binary64 :=
  match Magnitude.nearest? n d with
  | some size => .finite negative size
  | none => .infinite negative

end Binary64

end SIUnits
