import SIUnits.Binary64.Arithmetic
import SIUnits.Proofs.Binary64.Nearest

/-! Rounding as a function of a rational, and the operations on doubles as exact ones that are
rounded once. From the least normal double on the relative error of a rounding is at most
`2 ^ -53` (`Magnitude.IsNearest.error`). -/
namespace SIUnits

-- Powers are the core ones, whatever algebra is in scope.
attribute [local instance (2000)] instPowNat

namespace Magnitude

/-- The size nearest to a value that is not negative, or nothing where that is too large. -/
def round? (v : ℚ) : Option Magnitude := nearest? (stepsInOne * v.num.natAbs) v.den

private theorem parts_eq {v : ℚ} (hv : 0 ≤ v) :
    ((stepsInOne * v.num.natAbs : ℕ) : ℚ) / v.den / stepsInOne = v := by
  have hs := stepsInOne_cast_pos
  have hnum : ((v.num.natAbs : ℕ) : ℚ) = v.num := by
    rw [← Int.cast_natCast, Int.natAbs_of_nonneg (Rat.num_nonneg.mpr hv)]
  rw [Nat.cast_mul, hnum, div_right_comm, mul_div_cancel_left₀ _ hs.ne', Rat.num_div_den]

theorem isNearest_of_round? {v : ℚ} (hv : 0 ≤ v) {x : Magnitude} (h : round? v = some x) :
    IsNearest v x := by
  have hn := isNearest_of_nearest? v.den_pos h
  rwa [parts_eq hv] at hn

theorem round?_eq_none_iff {v : ℚ} (hv : 0 ≤ v) : round? v = none ↔ overflowBound ≤ v := by
  rw [round?, nearest?_eq_none_iff _ v.den_pos, parts_eq hv]

theorem exists_isNearest {v : ℚ} (hv : 0 ≤ v) (h : v < overflowBound) :
    ∃ x, round? v = some x ∧ IsNearest v x := by
  cases hx : round? v with
  | none => exact absurd ((round?_eq_none_iff hv).mp hx) (not_le.mpr h)
  | some x => exact ⟨x, rfl, isNearest_of_round? hv hx⟩

/-- Rounding finds the nearest size and nothing else. -/
theorem round?_eq_some_iff {v : ℚ} (hv : 0 ≤ v) {x : Magnitude} :
    round? v = some x ↔ IsNearest v x := by
  refine ⟨isNearest_of_round? hv, fun h => ?_⟩
  obtain ⟨y, hy, hny⟩ := exists_isNearest hv h.lt_bound
  rw [hy, hny.unique h]

/-- The result of rounding depends on the quotient alone. -/
theorem nearest?_eq_round? (n : ℕ) {d : ℕ} (hd : 0 < d) :
    nearest? n d = round? (n / d / stepsInOne) := by
  have hv : (0 : ℚ) ≤ n / d / stepsInOne := by positivity
  cases h : nearest? n d with
  | none => exact ((round?_eq_none_iff hv).mpr ((nearest?_eq_none_iff n hd).mp h)).symm
  | some x => exact ((round?_eq_some_iff hv).mpr (isNearest_of_nearest? hd h)).symm

theorem round?_toRat (x : Magnitude) : round? x.toRat = some x := by
  have h := nearest?_eq_round? (x.steps * 1) Nat.one_pos
  rw [nearest?_steps x Nat.one_pos] at h
  rw [h, Nat.mul_one, Nat.cast_one, div_one, toRat]

theorem isNearest_toRat (x : Magnitude) : IsNearest x.toRat x :=
  (round?_eq_some_iff x.toRat_nonneg).mp (round?_toRat x)

/-- Rounding changes nothing where the exact value is a size. -/
theorem IsNearest.eq_of_toRat {v : ℚ} {x y : Magnitude} (h : IsNearest v x) (hy : y.toRat = v) :
    x = y :=
  h.unique (hy ▸ y.isNearest_toRat)

/-- Between two values that round to a size every value does. -/
theorem IsNearest.between {u v w : ℚ} {x : Magnitude} (hu : IsNearest u x) (hw : IsNearest w x)
    (h0 : 0 ≤ v) (huv : u ≤ v) (hvw : v ≤ w) : IsNearest v x := by
  obtain ⟨y, -, hy⟩ := exists_isNearest h0 (hvw.trans_lt hw.lt_bound)
  have hxy : y.toRat = x.toRat := le_antisymm (hy.mono hw hvw) (hu.mono hy huv)
  rwa [toRat_injective hxy] at hy

@[simp] theorem round?_zero : round? 0 = some zero := by
  rw [← toRat_zero, round?_toRat]

/-- Up to half of the least double everything rounds to zero, which is even. -/
theorem round?_eq_zero {v : ℚ} (hv : 0 ≤ v) (h : v ≤ 1 / 2 / stepsInOne) :
    round? v = some zero := by
  have hs := stepsInOne_cast_pos
  have hhalf : (1 : ℚ) / 2 / stepsInOne < overflowBound := by
    have h1 : (1 : ℚ) ≤ stepsInOne := by exact_mod_cast stepsInOne_pos
    have h2 : (1 : ℚ) ≤ 2 ^ 2045 := one_le_pow₀ one_le_two
    have hb := overflowBound_mul
    rw [div_lt_iff₀ hs]
    generalize (2 : ℚ) ^ 2045 = a at *
    linarith
  have hfar : ∀ y : Magnitude, y ≠ zero → v ≤ y.toRat - v := by
    intro y hy
    have hpos : y.steps ≠ 0 := fun h0 => hy (steps_injective (h0.trans steps_zero.symm))
    have h1 : (1 : ℚ) ≤ y.steps := by exact_mod_cast Nat.pos_of_ne_zero hpos
    have hle : 2 * (1 / 2 / stepsInOne) ≤ y.toRat := by
      rw [toRat, ← mul_div_assoc, mul_one_div_cancel two_ne_zero]
      exact div_le_div_of_nonneg_right h1 hs.le
    linarith
  rw [round?_eq_some_iff hv]
  refine ⟨h.trans_lt hhalf, fun y => ?_, fun _ _ _ => rfl⟩
  rw [toRat_zero, zero_sub, abs_neg, abs_of_nonneg hv]
  by_cases hy : y = zero
  · rw [hy, toRat_zero, zero_sub, abs_neg, abs_of_nonneg hv]
  · exact (hfar y hy).trans (le_abs_self _)

theorem lt_overflowBound {v : ℚ} (h : v ≤ 2 ^ 1023) : v < overflowBound := by
  have h1 : (2 : ℚ) ^ 970 < 2 ^ 1023 := pow_lt_pow_right₀ one_lt_two (by decide)
  have h2 : (2 : ℚ) ^ 1024 = 2 ^ 1023 * 2 := pow_succ 2 1023
  rw [overflowBound, h2]
  generalize (2 : ℚ) ^ 1023 = a at *
  generalize (2 : ℚ) ^ 970 = b at *
  linarith

/-! ### The relative error -/

/-- The least double with a full significand. -/
def minNormal : ℚ := 2 ^ (-1022 : ℤ)

theorem minNormal_mul : minNormal * stepsInOne = 2 ^ 52 := by
  rw [minNormal, stepsInOne_cast, ← zpow_natCast, ← zpow_natCast, ← zpow_add₀ two_ne_zero]
  norm_num

theorem minNormal_pos : 0 < minNormal := by unfold minNormal; positivity

/-- A full significand has 53 bits, so half a unit of it is at most one part in `2 ^ 53`. -/
theorem IsNearest.error {v : ℚ} {x : Magnitude} (hx : IsNearest v x) (hv : minNormal ≤ v) :
    |x.toRat - v| ≤ v / 2 ^ 53 := by
  have hv0 : 0 ≤ v := minNormal_pos.le.trans hv
  have hround := (round?_eq_some_iff hv0).mpr hx
  have herr := abs_steps_sub_le v.den_pos hround
  have hparts := parts_eq hv0
  unfold round? at hround
  generalize stepsInOne * v.num.natAbs = n at *
  generalize hd : v.den = d at *
  have hdpos : 0 < d := hd ▸ v.den_pos
  have hdq : (0 : ℚ) < d := by exact_mod_cast hdpos
  have hlow : 2 ^ 52 * 2 ^ scaleAt n d ≤ (n : ℚ) / d := by
    by_cases hk : scaleAt n d = 0
    · rw [hk, pow_zero, mul_one, ← minNormal_mul, ← le_div_iff₀ stepsInOne_cast_pos, hparts]
      exact hv
    · rw [← pow_add, le_div_iff₀ hdq]
      exact_mod_cast le_of_scaleAt_ne_zero hdpos hk
  rw [← hparts, abs_toRat_sub, div_right_comm]
  refine div_le_div_of_nonneg_right (herr.trans ?_) stepsInOne_cast_pos.le
  linarith

end Magnitude

namespace Binary64

open Magnitude

/-- The double nearest to a value with the given sign, infinite where that is too large. -/
def round (negative : Bool) (v : ℚ) : Binary64 :=
  match round? v with
  | some size => .finite negative size
  | none => .infinite negative

theorem round_of_some (s : Bool) {v : ℚ} {x : Magnitude} (h : round? v = some x) :
    round s v = .finite s x := by
  unfold round
  rw [h]

theorem round_of_none (s : Bool) {v : ℚ} (h : round? v = none) : round s v = .infinite s := by
  unfold round
  rw [h]

theorem round_eq_finite (s : Bool) {v : ℚ} (hv : 0 ≤ v) (h : v < overflowBound) :
    ∃ x, round s v = .finite s x ∧ IsNearest v x := by
  obtain ⟨x, hx, hn⟩ := exists_isNearest hv h
  exact ⟨x, round_of_some s hx, hn⟩

theorem isNearest_of_round {s t : Bool} {v : ℚ} (hv : 0 ≤ v) {x : Magnitude}
    (h : round s v = .finite t x) : IsNearest v x := by
  cases hr : round? v with
  | none =>
    rw [round_of_none s hr] at h
    cases h
  | some y =>
    rw [round_of_some s hr] at h
    cases h
    exact isNearest_of_round? hv hr

theorem round_eq_infinite (s : Bool) {v : ℚ} (hv : 0 ≤ v) (h : overflowBound ≤ v) :
    round s v = .infinite s :=
  round_of_none s ((round?_eq_none_iff hv).mpr h)

theorem round_toRat (s : Bool) (x : Magnitude) : round s x.toRat = .finite s x :=
  round_of_some s (round?_toRat x)

@[simp] theorem round_zero (s : Bool) : round s 0 = .finite s .zero := round_of_some s round?_zero

theorem nearest_eq_round (s : Bool) (n : ℕ) {d : ℕ} (hd : 0 < d) :
    nearest s n d = round s (n / d / stepsInOne) := by
  have h := nearest?_eq_round? n hd
  unfold nearest
  cases hr : round? (n / d / stepsInOne) with
  | none => rw [h, hr, round_of_none s hr]
  | some x => rw [h, hr, round_of_some s hr]

theorem finite_mul_finite (s t : Bool) (x y : Magnitude) :
    (.finite s x : Binary64) * .finite t y = round (s != t) (x.toRat * y.toRat) := by
  change nearest (s != t) (x.steps * y.steps) stepsInOne = _
  rw [nearest_eq_round _ _ stepsInOne_pos, Nat.cast_mul, toRat, toRat, div_mul_div_comm,
    div_div]

theorem finite_div_finite (s t : Bool) (x : Magnitude) {y : Magnitude} (hy : 0 < y.toRat) :
    (.finite s x : Binary64) / .finite t y = round (s != t) (x.toRat / y.toRat) := by
  have hs := stepsInOne_cast_pos
  change (if y.significand = 0 then _ else nearest (s != t) (x.steps * stepsInOne) y.steps) = _
  rw [if_neg (toRat_pos_iff.mp hy), nearest_eq_round _ _ (steps_pos hy), Nat.cast_mul,
    toRat_div_toRat, div_right_comm, mul_div_cancel_right₀ _ hs.ne']

theorem infinite_div_finite (s t : Bool) (y : Magnitude) :
    (.infinite s : Binary64) / .finite t y = .infinite (s != t) := rfl

theorem finite_mul_infinite (s t : Bool) {x : Magnitude} (hx : 0 < x.toRat) :
    (.finite s x : Binary64) * .infinite t = .infinite (s != t) := by
  change (if x.significand = 0 then _ else _) = _
  rw [if_neg (toRat_pos_iff.mp hx)]

theorem ofInt_eq_round (n : ℤ) : ofInt n = round (decide (n < 0)) n.natAbs := by
  rw [ofInt, nearest_eq_round _ _ Nat.one_pos, Nat.cast_mul, Nat.cast_one, div_one,
    mul_div_cancel_right₀ _ stepsInOne_cast_pos.ne']

theorem ofInt_natCast {n : ℕ} {x : Magnitude} (h : IsNearest n x) : ofInt n = .finite false x := by
  have hn : decide ((n : ℤ) < 0) = false := by simp
  rw [ofInt_eq_round, hn, Int.natAbs_natCast]
  exact round_of_some false ((round?_eq_some_iff n.cast_nonneg).mpr h)

theorem powerOfTen_eq_round (e : ℤ) : powerOfTen e = round false (10 ^ e) := by
  have hs := stepsInOne_cast_pos
  cases e with
  | ofNat e =>
    rw [powerOfTen, nearest_eq_round _ _ Nat.one_pos]
    push_cast
    rw [div_one, mul_div_cancel_right₀ _ hs.ne', Int.ofNat_eq_natCast, zpow_natCast]
  | negSucc e =>
    rw [powerOfTen, nearest_eq_round _ _ (Nat.pow_pos (by decide))]
    push_cast
    rw [div_right_comm, div_self hs.ne', zpow_negSucc, one_div]

end Binary64

end SIUnits
