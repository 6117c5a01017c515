import SIUnits.Binary64.Rounding

/-! Multiplication and division of doubles, and the doubles nearest to whole numbers and to powers
of ten. Each is the exact result rounded once. -/
namespace SIUnits.Binary64

-- Powers are the core ones, whatever algebra is in scope.
attribute [local instance (2000)] instPowNat

def mul : Binary64 → Binary64 → Binary64
  | .finite s x, .finite t y =>
    nearest (s != t) (x.steps * y.steps) Magnitude.stepsInOne
  | .infinite s, .finite t y => if y.significand = 0 then .nan else .infinite (s != t)
  | .finite s x, .infinite t => if x.significand = 0 then .nan else .infinite (s != t)
  | .infinite s, .infinite t => .infinite (s != t)
  | _, _ => .nan

def div : Binary64 → Binary64 → Binary64
  | .finite s x, .finite t y =>
    if y.significand = 0 then
      if x.significand = 0 then .nan else .infinite (s != t)
    else
      nearest (s != t) (x.steps * Magnitude.stepsInOne) y.steps
  | .infinite s, .finite t _ => .infinite (s != t)
  | .finite s _, .infinite t => .finite (s != t) .zero
  | _, _ => .nan

instance : Mul Binary64 := ⟨mul⟩
instance : Div Binary64 := ⟨div⟩

/-- The double nearest to a whole number; zero is positive. -/
def ofInt (n : Int) : Binary64 :=
  nearest (decide (n < 0)) (n.natAbs * Magnitude.stepsInOne) 1

def powerOfTen : Int → Binary64
  | .ofNat e => nearest false (10 ^ e * Magnitude.stepsInOne) 1
  | .negSucc e => nearest false Magnitude.stepsInOne (10 ^ (e + 1))

end SIUnits.Binary64
