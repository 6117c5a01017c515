import SIUnits.Binary64.Rounding

/-! The shortest decimal that reads back as a given double. Every finite double is a whole number
of steps of `10 ^ -1074`; the grid of index `i` holds the multiples of `10 ^ i` such steps. The
search goes from coarse grids to fine ones and stops at the first that has a point reading back, so
the digits are the fewest, and of two points on one grid it takes the nearer. -/
namespace SIUnits.Magnitude

-- Powers are the core ones, whatever algebra is in scope.
attribute [local instance (2000)] instPowNat

/-- The number of steps of `10 ^ -1074` in a step of `2 ^ -1074`. -/
@[irreducible] def decimalRatio : Nat := 5 ^ (1074 : Nat)

theorem five_pow_pos (n : Nat) : 0 < 5 ^ n := Nat.pow_pos (by decide)

theorem decimalRatio_pos : 0 < decimalRatio := by
  unfold decimalRatio; exact five_pow_pos 1074

/-- The size in steps of `10 ^ -1074`. -/
def decimalSteps (x : Magnitude) : Nat := decimalRatio * x.steps

/-- The point `c` of the grid `i` rounds to `x`. -/
def ReadsBack (x : Magnitude) (c i : Nat) : Prop := nearest? (c * 10 ^ i) decimalRatio = some x

instance (x : Magnitude) (c i : Nat) : Decidable (x.ReadsBack c i) := by
  unfold ReadsBack; infer_instance

/-- The nearer of the two grid points around `x` that reads back; halfway between two, the
even one. -/
@[irreducible] def onGrid? (x : Magnitude) (i : Nat) : Option Nat :=
  let low := x.decimalSteps / 10 ^ i
  if x.ReadsBack low i then
    if x.ReadsBack (low + 1) i then some (roundHalfEven x.decimalSteps (10 ^ i)) else some low
  else if x.ReadsBack (low + 1) i then some (low + 1)
  else none

/-- A grid whose first point after zero lies above `x`, as `8 ^ 1 < 10 ^ 1`. -/
def coarsestGrid (x : Magnitude) : Nat := x.decimalSteps.log2 / 3 + 1

/-- The point that reads back on the coarsest grid that has one, with the index of the grid. On the
grid of index 0 the size is itself a point, so the search needs no answer for it. -/
def shortestPoint (x : Magnitude) : Nat × Nat :=
  let grids := (List.range x.coarsestGrid).reverse.map (· + 1)
  (grids.findSome? fun i => (x.onGrid? i).map (·, i)).getD (x.decimalSteps, 0)

/-- The coefficient and the power of ten of the shortest decimal. -/
def shortest (x : Magnitude) : Nat × Int :=
  if x.significand = 0 then (0, 0)
  else (x.shortestPoint.1, (x.shortestPoint.2 : Int) - 1074)

end SIUnits.Magnitude
