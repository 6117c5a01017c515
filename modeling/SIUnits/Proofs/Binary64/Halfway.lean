import SIUnits.Proofs.Binary64.Rounding

/-! The points halfway between neighbouring sizes, where rounding changes its result: what rounds to
a size is not above the point over it (`Magnitude.IsNearest.le_halfway`), and what rounds to a
larger one is not below (`Magnitude.IsNearest.halfway_le`). -/
namespace SIUnits

-- Powers are the core ones, whatever algebra is in scope.
attribute [local instance (2000)] instPowNat

namespace Magnitude

/-- Halfway to the next point of the lattice, in half steps. -/
def halfwaySteps (x : Magnitude) : ℕ := 2 * x.steps + 2 ^ x.scale

/-- Halfway to the next point of the lattice. -/
def halfway (x : Magnitude) : ℚ := x.halfwaySteps / (2 * stepsInOne)

theorem halfwaySteps_eq (x : Magnitude) :
    x.halfwaySteps = (2 * x.significand + 1) * 2 ^ x.scale := by
  rw [halfwaySteps, steps, Nat.add_mul, Nat.one_mul, Nat.mul_assoc]

theorem two_mul_halfway (x : Magnitude) :
    2 * x.halfway = x.toRat + (x.steps + 2 ^ x.scale : ℕ) / stepsInOne := by
  have hs := stepsInOne_cast_pos
  rw [halfway, halfwaySteps, toRat]
  push_cast
  field_simp
  ring

theorem toRat_lt_halfway (x : Magnitude) : x.toRat < x.halfway := by
  have hs := stepsInOne_cast_pos
  have hlt : x.toRat < (x.steps + 2 ^ x.scale : ℕ) / stepsInOne := by
    rw [toRat, div_lt_div_iff_of_pos_right hs, Nat.cast_lt]
    exact Nat.lt_add_of_pos_right (two_pow_pos _)
  have := x.two_mul_halfway
  linarith

/-- The largest size. -/
def largest : Magnitude := ⟨2 ^ (53 : ℕ) - 1, 2045, by decide, by decide, Or.inr (by decide)⟩

theorem steps_le_largest (x : Magnitude) : x.steps ≤ largest.steps :=
  Nat.mul_le_mul (Nat.le_sub_one_of_lt x.significand_lt)
    (Nat.pow_le_pow_right (by decide) x.scale_le)

theorem toRat_le_largest (x : Magnitude) : x.toRat ≤ largest.toRat :=
  toRat_le_toRat.mpr x.steps_le_largest

/-- Only the largest size has no size above it. -/
theorem exists_next_of_ne_largest {x : Magnitude} (h : x ≠ largest) :
    ∃ y : Magnitude, y.steps = x.steps + 2 ^ x.scale := by
  have hlt := x.significand_lt
  have hk := x.scale_le
  have hn := x.normal
  by_cases hc : x.significand + 1 = 2 ^ 53
  · -- The significand carries.
    have hscale : x.scale ≠ 2045 := by
      intro hscale
      refine h (ext_parts ?_ hscale)
      change _ = 2 ^ 53 - 1
      omega
    refine ⟨⟨2 ^ 52, x.scale + 1, by decide, by omega, Or.inr le_rfl⟩, ?_⟩
    unfold steps
    dsimp only
    rw [← Nat.succ_mul, Nat.succ_eq_add_one, hc, Nat.pow_succ]
    omega
  · refine ⟨⟨x.significand + 1, x.scale, by omega, hk, by omega⟩, ?_⟩
    unfold steps
    dsimp only
    rw [Nat.add_mul, Nat.one_mul]

theorem halfway_largest : largest.halfway = overflowBound := by
  have hs := stepsInOne_cast_pos
  obtain ⟨k, hk⟩ : ∃ k, k = 2045 := ⟨_, rfl⟩
  have hscale : largest.scale = k := hk.symm
  have hsteps : (largest.halfwaySteps : ℚ) = (2 ^ 54 - 1) * 2 ^ k := by
    rw [halfwaySteps_eq, hscale, Nat.cast_mul, two_pow_cast]
    norm_num [largest]
  rw [halfway, hsteps, hk, ← overflowBound_mul]
  field_simp

theorem halfway_le_overflowBound (x : Magnitude) : x.halfway ≤ overflowBound := by
  by_cases hx : x = largest
  · rw [hx, halfway_largest]
  obtain ⟨y, hy⟩ := exists_next_of_ne_largest hx
  have hhalf := x.two_mul_halfway
  rw [← hy, ← toRat] at hhalf
  have hlargest := largest.toRat_lt_halfway
  rw [halfway_largest] at hlargest
  have := x.toRat_le_largest
  have := y.toRat_le_largest
  linarith

namespace IsNearest

variable {v : ℚ} {x y : Magnitude}

theorem le_halfway (h : IsNearest v x) : v ≤ x.halfway := by
  by_cases hx : x = largest
  · rw [hx, halfway_largest]
    exact h.lt_bound.le
  obtain ⟨z, hz⟩ := exists_next_of_ne_largest hx
  have hhalf := x.two_mul_halfway
  have hlt := x.toRat_lt_halfway
  rw [← hz, ← toRat] at hhalf
  have hcl := h.closest z
  rcases abs_cases (x.toRat - v) with ⟨hax, _⟩ | ⟨hax, _⟩ <;>
    rcases abs_cases (z.toRat - v) with ⟨haz, _⟩ | ⟨haz, _⟩ <;> linarith

theorem halfway_le (h : IsNearest v y) (hlt : x.toRat < y.toRat) : x.halfway ≤ v := by
  have hs := stepsInOne_cast_pos
  have hle : ((x.steps + 2 ^ x.scale : ℕ) : ℚ) / stepsInOne ≤ y.toRat :=
    div_le_div_of_nonneg_right (Nat.cast_le.mpr (steps_add_le (toRat_lt_toRat.mp hlt))) hs.le
  have hhalf := x.two_mul_halfway
  have hcl := h.closest x
  rcases abs_cases (x.toRat - v) with ⟨hax, _⟩ | ⟨hax, _⟩ <;>
    rcases abs_cases (y.toRat - v) with ⟨hay, _⟩ | ⟨hay, _⟩ <;> linarith

/-- A result that is not zero is not far below the exact value, however small that is. -/
theorem le_two_mul (h : IsNearest v x) (hx : x ≠ zero) : v ≤ 2 * x.toRat := by
  have hs := stepsInOne_cast_pos
  have hpos : x.significand ≠ 0 := fun h0 => hx (eq_zero_of_significand h0)
  have hunit : 2 ^ x.scale ≤ x.steps := Nat.le_mul_of_pos_left _ (Nat.pos_of_ne_zero hpos)
  have hle : ((x.steps + 2 ^ x.scale : ℕ) : ℚ) / stepsInOne ≤ 2 * x.toRat := by
    rw [toRat, ← mul_div_assoc]
    refine div_le_div_of_nonneg_right ?_ hs.le
    exact_mod_cast (show x.steps + 2 ^ x.scale ≤ 2 * x.steps by omega)
  have hhalf := x.two_mul_halfway
  have := h.le_halfway
  have := x.toRat_nonneg
  linarith

end IsNearest

theorem halfway_zero : zero.halfway = 1 / 2 / stepsInOne := by
  rw [halfway, halfwaySteps, steps_zero, div_div]
  norm_num [zero]

theorem half_step_eq : (1 : ℚ) / 2 / stepsInOne = 2 ^ (-1075 : ℤ) := by
  rw [stepsInOne_cast, div_div, ← pow_succ', one_div, ← zpow_natCast, ← zpow_neg]
  rfl

/-- More than half a step does not round to zero. -/
theorem IsNearest.ne_zero {v : ℚ} {x : Magnitude} (h : IsNearest v x)
    (hv : 1 / 2 / stepsInOne < v) : x ≠ zero := by
  rintro rfl
  exact (halfway_zero ▸ h.le_halfway).not_gt hv

end Magnitude

end SIUnits
