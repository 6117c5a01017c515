/-! The binary64 numbers as exact values. A finite number is a sign and a whole count of steps of
`2 ^ -1074`, the least positive double, so that comparing two of them compares natural numbers and
two numbers are equal as terms exactly when they are the same double. -/
namespace SIUnits

-- Powers are the core ones, whatever algebra is in scope.
attribute [local instance (2000)] instPowNat

/-- The size of a finite double: `significand * 2 ^ scale` steps of `2 ^ -1074`. -/
structure Magnitude where
  significand : Nat
  scale : Nat
  significand_lt : significand < 2 ^ (53 : Nat)
  scale_le : scale ≤ 2045
  /-- Only the finest scale holds significands without a leading bit, so no size has two forms. -/
  normal : scale = 0 ∨ 2 ^ (52 : Nat) ≤ significand
deriving DecidableEq

namespace Magnitude

def steps (x : Magnitude) : Nat := x.significand * 2 ^ x.scale

theorem two_pow_pos (n : Nat) : 0 < 2 ^ n := Nat.pow_pos (by decide)

@[irreducible] def stepsInOne : Nat := 2 ^ (1074 : Nat)

theorem stepsInOne_pos : 0 < stepsInOne := by
  unfold stepsInOne; exact two_pow_pos 1074

def zero : Magnitude := ⟨0, 0, by decide, by decide, .inl rfl⟩

/-- The size with this significand and scale, if they are those of a double. -/
def ofParts? (significand scale : Nat) : Option Magnitude :=
  if h : significand < 2 ^ (53 : Nat) ∧ scale ≤ 2045 ∧
      (scale = 0 ∨ 2 ^ (52 : Nat) ≤ significand) then
    some ⟨significand, scale, h.1, h.2.1, h.2.2⟩
  else
    none

theorem steps_eq_zero {x : Magnitude} : x.steps = 0 ↔ x.significand = 0 :=
  Nat.mul_eq_zero.trans (or_iff_left (Nat.ne_of_gt (two_pow_pos _)))

theorem ofParts?_steps {m k : Nat} {x : Magnitude} (h : ofParts? m k = some x) :
    x.steps = m * 2 ^ k := by
  unfold ofParts? at h
  split at h
  · cases h; rfl
  · cases h

theorem ofParts?_self (x : Magnitude) : ofParts? x.significand x.scale = some x :=
  dif_pos ⟨x.significand_lt, x.scale_le, x.normal⟩

end Magnitude

/-- A double. The two zeros are the finite numbers of size zero; all quiet and signalling bit
patterns that are no number are the one value `nan`. -/
inductive Binary64 where
  | finite (negative : Bool) (size : Magnitude)
  | infinite (negative : Bool)
  | nan
deriving DecidableEq

namespace Binary64

def zero : Binary64 := .finite false .zero

def isFinite : Binary64 → Bool
  | .finite _ _ => true
  | _ => false

/-- Strictly less than zero; neither zero is, and `nan` is not. -/
def isBelowZero : Binary64 → Bool
  | .finite negative size => negative && size.significand != 0
  | .infinite negative => negative
  | .nan => false

def isAboveZero : Binary64 → Bool
  | .finite negative size => !negative && size.significand != 0
  | .infinite negative => !negative
  | .nan => false

/-- The number with zero in place of the negative zero. -/
def withoutSignedZero (x : Binary64) : Binary64 :=
  if x = .finite true .zero then zero else x

def toInt? : Binary64 → Option Int
  | .finite negative size =>
    if size.steps % Magnitude.stepsInOne = 0 then
      let n : Int := (size.steps / Magnitude.stepsInOne : Nat)
      some (if negative then -n else n)
    else
      none
  | _ => none

end Binary64

end SIUnits
