import SIUnits.Proofs.Binary64.Halfway

/-! What it means for a double to be nearest to a rational of either sign. The size of such a double
is nearest to the size of the rational, and its sign is that of the rational unless the double is a
zero (`Binary64.IsNearest.of_abs`, `Binary64.IsNearest.sign`); both zeros are nearest to what rounds
to zero. -/
namespace SIUnits.Binary64

open Magnitude (eq_zero_of_significand half_step_eq overflowBound round?_eq_some_iff
  round?_eq_zero toRat_injective toRat_zero)

/-- The exact value of the finite double with this sign and size. -/
def signedRat (negative : Bool) (size : Magnitude) : ℚ :=
  if negative then -size.toRat else size.toRat

/-- The double is nearest to `v` among all finite ones, and of two equally near values it has the
one with the even significand; `v` is not so large that rounding overflows. -/
structure IsNearest (v : ℚ) (negative : Bool) (size : Magnitude) : Prop where
  lt_bound : |v| < overflowBound
  closest (s : Bool) (y : Magnitude) : |signedRat negative size - v| ≤ |signedRat s y - v|
  even (s : Bool) (y : Magnitude) : signedRat s y ≠ signedRat negative size →
    |signedRat s y - v| = |signedRat negative size - v| → size.significand % 2 = 0

variable {v : ℚ} {s : Bool} {x : Magnitude}

theorem signedRat_not (s : Bool) (x : Magnitude) : signedRat (!s) x = -signedRat s x := by
  cases s <;> simp [signedRat]

theorem signedRat_zero (s : Bool) : signedRat s .zero = 0 := by
  cases s <;> simp [signedRat]

theorem abs_signedRat_not (s : Bool) (x : Magnitude) (v : ℚ) :
    |signedRat (!s) x - -v| = |signedRat s x - v| := by
  rw [signedRat_not, neg_sub_neg, abs_sub_comm]

theorem isBelowZero_finite_iff : (finite s x).isBelowZero = true ↔ s = true ∧ x ≠ .zero := by
  have hzero : x.significand = 0 ↔ x = .zero :=
    ⟨eq_zero_of_significand, fun h => by rw [h]; rfl⟩
  simp [isBelowZero, hzero]

namespace IsNearest

/-- Rounding does not care for the sign. -/
theorem neg (h : IsNearest v s x) : IsNearest (-v) (!s) x := by
  refine ⟨by rw [abs_neg]; exact h.lt_bound, fun t y => ?_, fun t y hne heq => ?_⟩
  · rw [← Bool.not_not t, abs_signedRat_not, abs_signedRat_not]
    exact h.closest (!t) y
  · rw [← Bool.not_not t, abs_signedRat_not, abs_signedRat_not] at heq
    refine h.even (!t) y (fun he => hne ?_) heq
    rw [signedRat_not s, ← he, signedRat_not, neg_neg]

/-- To what is not below zero a negative number is not nearer than zero. -/
theorem eq_zero_of_nonneg (h : IsNearest v true x) (hv : 0 ≤ v) : x = .zero := by
  have hcl := h.closest true .zero
  have hx := x.toRat_nonneg
  have hneg : signedRat true x = -x.toRat := rfl
  rw [signedRat_zero, hneg, zero_sub, abs_neg, abs_of_nonneg hv, abs_of_nonpos (by linarith)] at hcl
  refine toRat_injective ?_
  rw [toRat_zero]
  linarith

theorem sign (h : IsNearest v s x) (hx : x ≠ .zero) : s = decide (v < 0) := by
  rcases lt_or_ge v 0 with hv | hv
  · rw [decide_eq_true hv]
    cases s with
    | true => rfl
    | false => exact absurd (h.neg.eq_zero_of_nonneg (neg_nonneg.mpr hv.le)) hx
  · rw [decide_eq_false hv.not_gt]
    cases s with
    | true => exact absurd (h.eq_zero_of_nonneg hv) hx
    | false => rfl

private theorem isNearest_of_plus (h : IsNearest v false x) : x.IsNearest v := by
  refine ⟨(le_abs_self v).trans_lt h.lt_bound, fun y => h.closest false y, fun y hne heq => ?_⟩
  exact h.even false y (fun he => hne (toRat_injective he)) heq

/-- The size alone is nearest to the size of the exact value. -/
theorem isNearest_abs (h : IsNearest v s x) : x.IsNearest |v| := by
  wlog hv : 0 ≤ v generalizing v s
  · have hneg := this h.neg (by linarith)
    rwa [abs_neg] at hneg
  rw [abs_of_nonneg hv]
  cases s with
  | false => exact isNearest_of_plus h
  | true =>
    -- The two zeros are one value.
    obtain rfl := h.eq_zero_of_nonneg hv
    refine isNearest_of_plus ⟨h.lt_bound, fun t y => ?_, fun t y hne heq => ?_⟩
    · rw [signedRat_zero, ← signedRat_zero true]
      exact h.closest t y
    · rw [signedRat_zero, ← signedRat_zero true] at hne heq
      exact h.even t y hne heq

/-- A size nearest to a value that is not negative stays so among the numbers of both signs. -/
theorem of_nonneg (h : x.IsNearest v) (hv : 0 ≤ v) : IsNearest v false x := by
  have hzero := h.closest .zero
  rw [toRat_zero, zero_sub, abs_neg, abs_of_nonneg hv] at hzero
  have hfar : ∀ y : Magnitude, |signedRat true y - v| = y.toRat + v := by
    intro y
    have hneg : signedRat true y = -y.toRat := rfl
    have hy := y.toRat_nonneg
    rw [hneg, abs_of_nonpos (by linarith)]
    ring
  refine ⟨by rw [abs_of_nonneg hv]; exact h.lt_bound, fun t y => ?_, fun t y hne heq => ?_⟩
  · cases t with
    | false => exact h.closest y
    | true =>
      rw [hfar]
      exact hzero.trans (le_add_of_nonneg_left y.toRat_nonneg)
  · have hplus : signedRat false x = x.toRat := rfl
    cases t with
    | false => exact h.even y (fun he => hne (he ▸ rfl)) heq
    | true =>
      -- Only the negative zero is as near, and it has the value of the other zero.
      rw [hfar, hplus] at heq
      have hy := y.toRat_nonneg
      obtain rfl : y = .zero := toRat_injective (by rw [toRat_zero]; linarith)
      refine h.even .zero (fun he => hne ?_) ?_
      · rw [signedRat_zero, ← he]
        exact toRat_zero.symm
      · rw [toRat_zero, zero_sub, abs_neg, abs_of_nonneg hv]
        rwa [toRat_zero, zero_add] at heq

/-- With the sign of the exact value the nearest size makes a nearest double. -/
theorem of_abs (h : x.IsNearest |v|) : IsNearest v (decide (v < 0)) x := by
  have hplus : IsNearest |v| false x := of_nonneg h (abs_nonneg v)
  rcases lt_or_ge v 0 with hv | hv
  · have hneg := hplus.neg
    rw [abs_of_neg hv, neg_neg] at hneg
    rwa [decide_eq_true hv]
  · rw [abs_of_nonneg hv] at hplus
    rwa [decide_eq_false hv.not_gt]

/-- Half of the least double is the largest size that rounds to zero. -/
theorem eq_zero_iff (h : IsNearest v s x) : x = .zero ↔ |v| ≤ 2 ^ (-1075 : ℤ) := by
  rw [← half_step_eq]
  constructor
  · rintro rfl
    exact not_lt.mp fun hlt => h.isNearest_abs.ne_zero hlt rfl
  · intro hle
    have hzero := round?_eq_zero (abs_nonneg v) hle
    exact h.isNearest_abs.unique ((round?_eq_some_iff (abs_nonneg v)).mp hzero)

end IsNearest

theorem exists_isNearest (h : |v| < overflowBound) : ∃ x, IsNearest v (decide (v < 0)) x := by
  obtain ⟨x, -, hx⟩ := Magnitude.exists_isNearest (abs_nonneg v) h
  exact ⟨x, IsNearest.of_abs hx⟩

end SIUnits.Binary64
