import Mathlib.Algebra.Order.Field.Power
import Mathlib.Data.Rat.Cast.Order
import Mathlib.Tactic.FieldSimp
import Mathlib.Tactic.Linarith
import Mathlib.Tactic.NormNum
import Mathlib.Tactic.Positivity
import Mathlib.Tactic.Ring
import SIUnits.Binary64.Lemmas

/-! Exact values of finite doubles. The sizes of one scale are the points of a lattice, and every
other size either lies on that lattice too or is below its first normal point
(`Magnitude.steps_eq_mul_or_lt`). -/
namespace SIUnits

-- Powers are the core ones, whatever algebra is in scope.
attribute [local instance (2000)] instPowNat

namespace Magnitude

/-! ### Exact values -/

theorem two_pow_cast (k : ℕ) : ((2 ^ k : ℕ) : ℚ) = 2 ^ k := by
  rw [Nat.cast_pow, Nat.cast_ofNat]

theorem stepsInOne_eq : stepsInOne = 2 ^ (1074 : ℕ) := by unfold stepsInOne; rfl

theorem stepsInOne_cast : (stepsInOne : ℚ) = 2 ^ 1074 :=
  (congrArg Nat.cast stepsInOne_eq).trans (two_pow_cast 1074)

theorem stepsInOne_cast_pos : (0 : ℚ) < stepsInOne := by exact_mod_cast stepsInOne_pos

/-- The exact value. -/
def toRat (x : Magnitude) : ℚ := x.steps / stepsInOne

theorem toRat_nonneg (x : Magnitude) : 0 ≤ x.toRat := by
  unfold toRat; positivity

theorem toRat_le_toRat {x y : Magnitude} : x.toRat ≤ y.toRat ↔ x.steps ≤ y.steps := by
  unfold toRat
  rw [div_le_div_iff_of_pos_right stepsInOne_cast_pos, Nat.cast_le]

theorem toRat_injective {x y : Magnitude} (h : x.toRat = y.toRat) : x = y :=
  steps_injective (le_antisymm (toRat_le_toRat.mp h.le) (toRat_le_toRat.mp h.ge))

theorem toRat_lt_toRat {x y : Magnitude} : x.toRat < y.toRat ↔ x.steps < y.steps := by
  rw [← not_le, ← not_le, toRat_le_toRat]

@[simp] theorem toRat_zero : zero.toRat = 0 := by simp [toRat, steps_zero]

theorem toRat_pos_iff {x : Magnitude} : 0 < x.toRat ↔ x.significand ≠ 0 := by
  rw [← toRat_zero, toRat_lt_toRat, steps_zero, Nat.pos_iff_ne_zero, Ne, steps_eq_zero]

theorem steps_pos {x : Magnitude} (h : 0 < x.toRat) : 0 < x.steps :=
  Nat.pos_of_ne_zero fun h0 => toRat_pos_iff.mp h (steps_eq_zero.mp h0)

theorem toRat_div_toRat (x y : Magnitude) : x.toRat / y.toRat = (x.steps : ℚ) / y.steps :=
  div_div_div_cancel_right₀ stepsInOne_cast_pos.ne' _ _

/-- The powers of two in the normal range are sizes. -/
theorem exists_toRat_eq_two_zpow {n : ℤ} (hl : -1022 ≤ n) (hh : n ≤ 1023) :
    ∃ x : Magnitude, x.toRat = 2 ^ n := by
  refine ⟨⟨2 ^ (52 : ℕ), (n + 1022).toNat, by decide, by omega, Or.inr le_rfl⟩, ?_⟩
  rw [toRat, steps, Nat.cast_mul, two_pow_cast, two_pow_cast, stepsInOne_cast, ← pow_add,
    div_eq_iff (by positivity), ← zpow_natCast, ← zpow_natCast, ← zpow_add₀ two_ne_zero]
  congr 1
  push_cast
  omega

/-- A whole number of 53 bits is a size, and so are its products by powers of two that are not too
large. It need not have a leading bit. -/
theorem exists_toRat_eq_mul_two_pow {m k : ℕ} (hm : m < 2 ^ (53 : ℕ)) (hk : k ≤ 971) :
    ∃ x : Magnitude, x.toRat = m * 2 ^ k := by
  by_cases h0 : m = 0
  · refine ⟨zero, ?_⟩
    rw [toRat_zero, h0, Nat.cast_zero, zero_mul]
  have hlog : m.log2 < 53 := (Nat.log2_lt h0).mpr hm
  obtain ⟨s, hs⟩ : ∃ s, m.log2 + s = 52 := ⟨52 - m.log2, by omega⟩
  have hlow : 2 ^ (52 : ℕ) ≤ m * 2 ^ s := by
    rw [← hs, Nat.pow_add]
    exact Nat.mul_le_mul_right _ (Nat.log2_self_le h0)
  have hhigh : m * 2 ^ s < 2 ^ (53 : ℕ) := by
    rw [show 53 = m.log2 + 1 + s by omega, Nat.pow_add]
    exact Nat.mul_lt_mul_of_pos_right Nat.lt_log2_self (two_pow_pos s)
  obtain ⟨j, hj⟩ : ∃ j, s + j = k + 1074 := ⟨k + 1074 - s, by omega⟩
  refine ⟨⟨m * 2 ^ s, j, hhigh, by omega, Or.inr hlow⟩, ?_⟩
  rw [toRat, steps, mul_assoc, ← Nat.pow_add, hj, stepsInOne_cast, Nat.cast_mul, two_pow_cast,
    pow_add, mul_div_assoc, mul_div_cancel_right₀ _ (by positivity)]

theorem exists_toRat_eq_natCast {n : ℕ} (h : n ≤ 2 ^ (53 : ℕ)) : ∃ x : Magnitude, x.toRat = n := by
  rcases h.lt_or_eq with hlt | heq
  · obtain ⟨x, hx⟩ := exists_toRat_eq_mul_two_pow (k := 0) hlt (by decide)
    refine ⟨x, ?_⟩
    rw [hx, pow_zero, mul_one]
  · obtain ⟨x, hx⟩ := exists_toRat_eq_mul_two_pow (m := 1) (k := 53) (by decide) (by decide)
    refine ⟨x, ?_⟩
    rw [hx, heq, Nat.cast_one, one_mul, two_pow_cast]

/-- The powers of ten whose odd part has 53 bits are sizes. -/
theorem exists_toRat_eq_ten_pow {e : ℕ} (h : e ≤ 22) : ∃ x : Magnitude, x.toRat = 10 ^ e := by
  have hodd : 5 ^ e < 2 ^ (53 : ℕ) :=
    (Nat.pow_le_pow_right (by decide) h).trans_lt (by decide)
  obtain ⟨x, hx⟩ := exists_toRat_eq_mul_two_pow (k := e) hodd (by omega)
  refine ⟨x, ?_⟩
  rw [hx, Nat.cast_pow, Nat.cast_ofNat, ← mul_pow]
  norm_num

theorem abs_toRat_sub (x : Magnitude) (w : ℚ) :
    |x.toRat - w / stepsInOne| = |(x.steps : ℚ) - w| / stepsInOne := by
  rw [toRat, ← sub_div, abs_div, abs_of_pos stepsInOne_cast_pos]

/-! ### The lattice of one scale -/

theorem steps_lt (x : Magnitude) : x.steps < 2 ^ (53 + x.scale) := by
  unfold steps
  rw [Nat.pow_add]
  exact Nat.mul_lt_mul_of_pos_right x.significand_lt (two_pow_pos _)

theorem le_steps {x : Magnitude} (h : x.scale ≠ 0) : 2 ^ (52 + x.scale) ≤ x.steps := by
  unfold steps
  rw [Nat.pow_add]
  exact Nat.mul_le_mul_right _ (x.normal.resolve_left h)

/-- A size is on the lattice of every finer scale, and below the first normal point of every
coarser one. -/
theorem steps_eq_mul_or_lt (x : Magnitude) (k : ℕ) :
    (∃ m, x.steps = m * 2 ^ k) ∨ x.scale < k ∧ x.steps < 2 ^ (52 + k) := by
  by_cases hk : k ≤ x.scale
  · refine Or.inl ⟨x.significand * 2 ^ (x.scale - k), ?_⟩
    rw [mul_assoc, ← Nat.pow_add, Nat.sub_add_cancel hk]
    rfl
  · have hp : 2 ^ (53 + x.scale) ≤ 2 ^ (52 + k) := Nat.pow_le_pow_right (by decide) (by omega)
    exact Or.inr ⟨by omega, x.steps_lt.trans_le hp⟩

/-- Above a size there is nothing before the next point of its lattice. -/
theorem steps_add_le {x y : Magnitude} (h : x.steps < y.steps) :
    x.steps + 2 ^ x.scale ≤ y.steps := by
  rcases y.steps_eq_mul_or_lt x.scale with ⟨m, hm⟩ | ⟨hk, hlt⟩
  · have hx : x.steps = x.significand * 2 ^ x.scale := rfl
    rw [hm, hx] at h ⊢
    have hlt := Nat.lt_of_mul_lt_mul_right h
    calc x.significand * 2 ^ x.scale + 2 ^ x.scale
        = (x.significand + 1) * 2 ^ x.scale := by ring
      _ ≤ m * 2 ^ x.scale := Nat.mul_le_mul_right _ hlt
  · have := le_steps (x := x) (by omega)
    omega

end Magnitude

end SIUnits
