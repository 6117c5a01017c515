import SIUnits.Binary64.Rounding

/-! Facts about sizes and their rounding. Main statements: a size is known by its number of steps
(`steps_injective`), and rounding an exact count of steps changes nothing (`nearest?_steps`). -/
namespace SIUnits

-- Powers are the core ones, whatever algebra is in scope.
attribute [local instance (2000)] instPowNat

theorem roundHalfEven_mul (m : Nat) {d : Nat} (hd : 0 < d) : roundHalfEven (m * d) d = m := by
  simp [roundHalfEven, Nat.mul_div_cancel m hd, hd]

/-- The rounded quotient is one of the two natural numbers around the exact one. -/
theorem roundHalfEven_eq_or (n d : Nat) :
    roundHalfEven n d = n / d ∨ roundHalfEven n d = n / d + 1 := by
  unfold roundHalfEven
  dsimp only
  split
  · exact .inl rfl
  · split
    · exact .inr rfl
    · omega

namespace Magnitude

theorem ext_parts {x y : Magnitude} (hm : x.significand = y.significand)
    (hk : x.scale = y.scale) : x = y := by
  cases x; cases y; simp_all

theorem steps_zero : zero.steps = 0 := rfl

theorem eq_zero_of_significand {x : Magnitude} (h : x.significand = 0) : x = zero := by
  have hk : x.scale = 0 := x.normal.resolve_right (by omega)
  exact ext_parts h hk

/-- A size other than those of the finest scale has its leading bit in a place that tells the
scale. -/
theorem log2_steps {x : Magnitude} (hk : x.scale ≠ 0) : x.steps.log2 = 52 + x.scale := by
  have hm : 2 ^ 52 ≤ x.significand := x.normal.resolve_left hk
  have hlow : 2 ^ (52 + x.scale) ≤ x.steps := by
    rw [Nat.pow_add]; exact Nat.mul_le_mul_right _ hm
  have hhigh : x.steps < 2 ^ (52 + x.scale + 1) := by
    rw [show 52 + x.scale + 1 = 53 + x.scale by omega, Nat.pow_add]
    exact Nat.mul_lt_mul_of_pos_right x.significand_lt (Nat.two_pow_pos _)
  have hne : x.steps ≠ 0 := by have := Nat.two_pow_pos (52 + x.scale); omega
  have h1 := (Nat.le_log2 hne).2 hlow
  have h2 := (Nat.log2_lt hne).2 hhigh
  omega

/-- Rounding a size finds the scale of the size. -/
theorem scaleAt_steps (x : Magnitude) {d : Nat} (hd : 0 < d) :
    scaleAt (x.steps * d) d = x.scale := by
  rw [scaleAt, Nat.mul_div_cancel _ hd]
  by_cases hk : x.scale = 0
  · have hlt : x.steps < 2 ^ 53 := by simpa [steps, hk] using x.significand_lt
    by_cases hz : x.steps = 0
    · simp [hz, hk, Nat.log2_zero]
    · have := (Nat.log2_lt hz).2 hlt
      omega
  · rw [log2_steps hk]; omega

theorem nearest?_steps (x : Magnitude) {d : Nat} (hd : 0 < d) :
    nearest? (x.steps * d) d = some x := by
  have hround : roundHalfEven (x.steps * d) (d * 2 ^ x.scale) = x.significand := by
    rw [steps, Nat.mul_assoc, Nat.mul_comm (2 ^ x.scale) d]
    exact roundHalfEven_mul _ (Nat.mul_pos hd (Nat.two_pow_pos _))
  have hlt := x.significand_lt
  rw [nearest?, scaleAt_steps x hd]
  rw [hround, if_neg (by omega), ofParts?_self]

theorem steps_injective {x y : Magnitude} (h : x.steps = y.steps) : x = y := by
  have hx := nearest?_steps x (d := 1) (by decide)
  rw [h, nearest?_steps y (by decide)] at hx
  exact (Option.some.inj hx).symm

end Magnitude

end SIUnits
