import SIUnits.Proofs.Binary64.Error
import SIUnits.Unit.Tables

/-! The multipliers of the prefixes are the doubles nearest to their powers of ten
(`exists_multiplier`), and the formulas that use them drift from the exact ones by few roundings. -/
namespace SIUnits

open Magnitude

theorem SIPrefix.exponent_bounds :
    ∀ p ∈ UnitTables.standard.prefixes, -24 ≤ p.exponent ∧ p.exponent ≤ 24 := by
  decide

variable {e : ℤ}

theorem ten_zpow_le (h : e ≤ 24) : (10 : ℚ) ^ e ≤ 2 ^ 80 :=
  calc (10 : ℚ) ^ e ≤ 10 ^ (24 : ℤ) := zpow_le_zpow_right₀ (by norm_num) h
    _ ≤ 2 ^ 80 := by norm_num

theorem le_ten_zpow (h : -24 ≤ e) : 1 / 2 ^ 80 ≤ (10 : ℚ) ^ e :=
  calc (1 : ℚ) / 2 ^ 80 ≤ 10 ^ (-24 : ℤ) := by norm_num
    _ ≤ 10 ^ e := zpow_le_zpow_right₀ (by norm_num) h

theorem minNormal_le_one_div : minNormal ≤ 1 / 2 ^ 80 := by
  rw [minNormal, one_div, ← zpow_natCast, ← zpow_neg]
  exact zpow_le_zpow_right₀ one_le_two (by norm_num)

/-- The power of ten is far below the largest double. -/
theorem exists_multiplier (hh : e ≤ 24) :
    ∃ m, Binary64.powerOfTen e = .finite false m ∧ m.IsNearest (10 ^ e) := by
  have hpos : (0 : ℚ) ≤ 10 ^ e := by positivity
  have hlt : (10 : ℚ) ^ e ≤ 2 ^ 1023 :=
    (ten_zpow_le hh).trans (pow_le_pow_right₀ one_le_two (by decide))
  obtain ⟨m, hm, hn⟩ := Binary64.round_eq_finite false hpos (lt_overflowBound hlt)
  exact ⟨m, by rw [Binary64.powerOfTen_eq_round, hm], hn⟩

theorem Magnitude.IsNearest.within_of_ten_zpow {m : Magnitude} (hm : m.IsNearest (10 ^ e))
    (hl : -24 ≤ e) : WithinRoundings 1 (10 ^ e) m.toRat :=
  hm.within (minNormal_le_one_div.trans (le_ten_zpow hl))

/-- The multipliers and their quotients are nowhere near the ends of the doubles. -/
theorem Magnitude.IsNearest.bounds_of_ten_zpow {m : Magnitude} (hm : m.IsNearest (10 ^ e))
    (hl : -24 ≤ e) (hh : e ≤ 24) : 1 / 2 ^ 81 ≤ m.toRat ∧ m.toRat ≤ 2 ^ 81 := by
  have hw := hm.within_of_ten_zpow hl
  have hlow := hw.half_le (by positivity) (by decide)
  have hhigh := hw.le_double m.toRat_nonneg (by decide)
  have he := le_ten_zpow hl
  have he' := ten_zpow_le hh
  constructor <;> linarith

theorem Magnitude.IsNearest.pos_of_ten_zpow {m : Magnitude} (hm : m.IsNearest (10 ^ e))
    (hl : -24 ≤ e) : 0 < m.toRat := by
  have hpos : (0 : ℚ) < 10 ^ e := by positivity
  exact (mul_pos hpos (pow_pos keptPart_pos 1)).trans_le (hm.within_of_ten_zpow hl).lower

/-- The size of a multiplier, with room for its rounding. -/
def IsMultiplierSize (v : ℚ) : Prop := 1 / 2 ^ 81 ≤ v ∧ v ≤ 2 ^ 81

theorem ratio_bounds {s t : ℚ} (hs : IsMultiplierSize s) (ht : IsMultiplierSize t) :
    minNormal ≤ s / t ∧ s / t < overflowBound := by
  have htpos : 0 < t := lt_of_lt_of_le (by positivity) ht.1
  have hlow : (1 : ℚ) / 2 ^ 81 / 2 ^ 81 ≤ s / t :=
    div_le_div₀ (le_trans (by positivity) hs.1) hs.1 htpos ht.2
  have hhigh : s / t ≤ 2 ^ 81 / (1 / 2 ^ 81) :=
    div_le_div₀ (by positivity) hs.2 (by positivity) ht.1
  have hmin : minNormal ≤ 1 / 2 ^ 81 / 2 ^ 81 := by
    rw [minNormal, div_div, ← pow_add, one_div, ← zpow_natCast, ← zpow_neg]
    exact zpow_le_zpow_right₀ one_le_two (by decide)
  have hmax : (2 : ℚ) ^ 81 / (1 / 2 ^ 81) < overflowBound := by
    rw [div_div_eq_mul_div, div_one, ← pow_add]
    exact lt_overflowBound (pow_le_pow_right₀ one_le_two (by decide))
  exact ⟨hmin.trans hlow, hhigh.trans_lt hmax⟩

/-- The size that the multiplier of a prefix with this power of ten has. -/
structure IsMultiplier (e : ℤ) (m : Magnitude) : Prop where
  exponent_ge : -24 ≤ e
  exponent_le : e ≤ 24
  nearest : m.IsNearest (10 ^ e)

namespace IsMultiplier

variable {f : ℤ} {s t : Magnitude} {v : ℚ}

theorem within (h : IsMultiplier e s) : WithinRoundings 1 (10 ^ e) s.toRat :=
  h.nearest.within_of_ten_zpow h.exponent_ge

theorem pos (h : IsMultiplier e s) : 0 < s.toRat := h.nearest.pos_of_ten_zpow h.exponent_ge

theorem size (h : IsMultiplier e s) : IsMultiplierSize s.toRat :=
  h.nearest.bounds_of_ten_zpow h.exponent_ge h.exponent_le

theorem product_within (hs : IsMultiplier e s) (hv : 0 ≤ v) :
    WithinRoundings 1 (v * 10 ^ e) (v * s.toRat) :=
  hs.within.mul_left hv

/-- The multipliers drift by one rounding each. -/
theorem quotient_within (hs : IsMultiplier e s) (ht : IsMultiplier f t) (hv : 0 ≤ v) :
    WithinRoundings 2 (v * 10 ^ (e - f)) (v * s.toRat / t.toRat) := by
  have hten : (0 : ℚ) < 10 ^ f := by positivity
  rw [zpow_sub₀ (by norm_num), ← mul_div_assoc]
  exact ((hs.product_within hv).div_right hten.le).trans
    (ht.within.div_left (mul_nonneg hv hs.pos.le) hten ht.pos)

/-- The quotient of two multipliers is a double, and drifts by one rounding more. -/
theorem exists_ratio (hs : IsMultiplier e s) (ht : IsMultiplier f t) :
    ∃ r : Magnitude, (.finite false s : Binary64) / .finite false t = .finite false r ∧
      r.IsNearest (s.toRat / t.toRat) ∧
      ∀ v : ℚ, 0 ≤ v → WithinRoundings 3 (v * 10 ^ (e - f)) (v * r.toRat) := by
  obtain ⟨hlow, hhigh⟩ := ratio_bounds hs.size ht.size
  obtain ⟨r, hr, hn⟩ := Binary64.round_eq_finite false (minNormal_pos.le.trans hlow) hhigh
  refine ⟨r, (Binary64.finite_div_finite false false s ht.pos).trans hr, hn, fun v hv => ?_⟩
  have hratio := (hn.within hlow).mul_left hv
  rw [← mul_div_assoc] at hratio
  exact (hs.quotient_within ht hv).trans hratio

end IsMultiplier

end SIUnits
