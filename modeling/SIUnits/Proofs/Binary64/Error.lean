import SIUnits.Proofs.Binary64.Rounding

/-! How far a value may drift in several roundings. The relation is symmetric, adds up along a chain
and scales with its values, so the error of a formula is the number of its roundings
(`WithinRoundings.abs_sub_le`). -/
namespace SIUnits

/-- One rounding keeps at least this part of a value. -/
def keptPart : ℚ := 1 - 1 / 2 ^ 53

theorem keptPart_pos : 0 < keptPart := by norm_num [keptPart]

theorem keptPart_le_one : keptPart ≤ 1 := by norm_num [keptPart]

/-- The values are apart by `k` roundings at most. -/
structure WithinRoundings (k : ℕ) (v z : ℚ) : Prop where
  lower : v * keptPart ^ k ≤ z
  upper : z * keptPart ^ k ≤ v

namespace WithinRoundings

variable {j k : ℕ} {v w z c : ℚ}

theorem symm (h : WithinRoundings k v z) : WithinRoundings k z v := ⟨h.upper, h.lower⟩

theorem trans (h : WithinRoundings j v w) (h' : WithinRoundings k w z) :
    WithinRoundings (j + k) v z := by
  have hj : 0 ≤ keptPart ^ j := pow_nonneg keptPart_pos.le j
  have hk : 0 ≤ keptPart ^ k := pow_nonneg keptPart_pos.le k
  constructor
  · calc v * keptPart ^ (j + k) = v * keptPart ^ j * keptPart ^ k := by rw [pow_add]; ring
      _ ≤ w * keptPart ^ k := mul_le_mul_of_nonneg_right h.lower hk
      _ ≤ z := h'.lower
  · calc z * keptPart ^ (j + k) = z * keptPart ^ k * keptPart ^ j := by rw [pow_add]; ring
      _ ≤ w * keptPart ^ j := mul_le_mul_of_nonneg_right h'.upper hj
      _ ≤ v := h.upper

theorem mul_right (h : WithinRoundings k v z) (hc : 0 ≤ c) :
    WithinRoundings k (v * c) (z * c) := by
  constructor
  · calc v * c * keptPart ^ k = v * keptPart ^ k * c := by ring
      _ ≤ z * c := mul_le_mul_of_nonneg_right h.lower hc
  · calc z * c * keptPart ^ k = z * keptPart ^ k * c := by ring
      _ ≤ v * c := mul_le_mul_of_nonneg_right h.upper hc

theorem mul_left (h : WithinRoundings k v z) (hc : 0 ≤ c) :
    WithinRoundings k (c * v) (c * z) := by
  rw [mul_comm c, mul_comm c]
  exact h.mul_right hc

theorem div_right (h : WithinRoundings k v z) (hc : 0 ≤ c) :
    WithinRoundings k (v / c) (z / c) := by
  rw [div_eq_mul_inv, div_eq_mul_inv]
  exact h.mul_right (inv_nonneg.mpr hc)

/-- A divisor that drifts moves the quotient by as much. -/
theorem div_left (h : WithinRoundings k v z) (hc : 0 ≤ c) (hv : 0 < v) (hz : 0 < z) :
    WithinRoundings k (c / v) (c / z) := by
  constructor
  · rw [div_mul_eq_mul_div, div_le_div_iff₀ hv hz, mul_right_comm, mul_assoc]
    exact mul_le_mul_of_nonneg_left h.upper hc
  · rw [div_mul_eq_mul_div, div_le_div_iff₀ hz hv, mul_right_comm, mul_assoc]
    exact mul_le_mul_of_nonneg_left h.lower hc

/-- Few roundings move a value by little more than as many half units. -/
theorem abs_sub_le (h : WithinRoundings k v z) (hv : 0 ≤ v) (hk : k ≤ 2 ^ 51) :
    |z - v| ≤ 2 * k / 2 ^ 53 * v := by
  have hkq : (k : ℚ) ≤ 2 ^ 51 := by exact_mod_cast hk
  have hk0 : (0 : ℚ) ≤ k := by positivity
  have hbern : 1 - k / 2 ^ 53 ≤ keptPart ^ k := by
    have := one_add_mul_le_pow (show (-2 : ℚ) ≤ -(1 / 2 ^ 53) by norm_num) k
    calc (1 : ℚ) - k / 2 ^ 53 = 1 + k * -(1 / 2 ^ 53) := by ring
      _ ≤ keptPart ^ k := by rw [keptPart, sub_eq_add_neg]; exact this
  have hz : 0 ≤ z := (mul_nonneg hv (pow_nonneg keptPart_pos.le k)).trans h.lower
  have hlow := (mul_le_mul_of_nonneg_left hbern hv).trans h.lower
  have hhigh := (mul_le_mul_of_nonneg_left hbern hz).trans h.upper
  have he : (k : ℚ) / 2 ^ 53 ≤ 1 / 4 := by
    rw [div_le_div_iff₀ (by positivity) (by norm_num)]
    linarith
  have he0 : (0 : ℚ) ≤ k / 2 ^ 53 := by positivity
  rw [mul_div_assoc]
  generalize (k : ℚ) / 2 ^ 53 = e at *
  rw [abs_le]
  constructor
  · nlinarith
  · -- From `z * (1 - e) ≤ v` and `1 ≤ (1 - e) * (1 + 2 * e)`.
    nlinarith [mul_nonneg hz he0, mul_nonneg hv he0]

/-- A handful of roundings keep at least half of a value. -/
theorem half_le (h : WithinRoundings k v z) (hv : 0 ≤ v) (hk : k ≤ 8) : v / 2 ≤ z := by
  have h8 : (1 : ℚ) / 2 ≤ keptPart ^ 8 := by norm_num [keptPart]
  have hpow : keptPart ^ 8 ≤ keptPart ^ k :=
    pow_le_pow_of_le_one keptPart_pos.le keptPart_le_one hk
  calc v / 2 = v * (1 / 2) := by ring
    _ ≤ v * keptPart ^ k := mul_le_mul_of_nonneg_left (h8.trans hpow) hv
    _ ≤ z := h.lower

theorem le_double (h : WithinRoundings k v z) (hz : 0 ≤ z) (hk : k ≤ 8) : z ≤ 2 * v := by
  have := h.symm.half_le hz hk
  linarith

end WithinRoundings

theorem Magnitude.IsNearest.within {v : ℚ} {x : Magnitude} (hx : IsNearest v x)
    (hv : minNormal ≤ v) : WithinRoundings 1 v x.toRat := by
  have herr := abs_le.mp (hx.error hv)
  have hv0 : 0 ≤ v := minNormal_pos.le.trans hv
  rw [div_eq_mul_one_div] at herr
  have h53 : (0 : ℚ) < 1 / 2 ^ 53 := by positivity
  constructor <;> rw [pow_one, keptPart]
  · linarith [herr.1]
  · nlinarith [herr.2, mul_nonneg hv0 h53.le]

end SIUnits
