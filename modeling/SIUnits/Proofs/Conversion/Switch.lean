import SIUnits.Proofs.Binary64.Evaluation
import SIUnits.Proofs.Binary64.Halfway
import SIUnits.Proofs.Binary64.Order
import SIUnits.Proofs.Conversion.Quantity
import SIUnits.Proofs.Unit.Grammar

/-! The two formulas of a conversion in order. Each keeps the order of the quantities as rounding
does. Where the one by the ratio takes over from the direct one they round differently, so there it
is a question of the multipliers: it is enough to compare the last finite result of the one with the
first result of the other (`KeepsOrder.convertQuantity_mono`). -/
namespace SIUnits

-- Powers are the core ones, whatever algebra is in scope.
attribute [local instance (2000)] instPowNat

open Magnitude

variable {q q' s t r p : Magnitude}

/-! ### Each formula by itself -/

theorem Binary64.HasPlusSign.le_infinite {x : Binary64} (h : x.HasPlusSign) :
    x ≤ .infinite false := by
  rcases h.cases with ⟨y, rfl⟩ | rfl
  · exact Le.top (by simp)
  · exact Le.top (by simp)

theorem Binary64.HasPlusSign.zero_le {x : Binary64} (h : x.HasPlusSign) : zero ≤ x := by
  rcases h.cases with ⟨y, rfl⟩ | rfl
  · exact finite_le_finite.mpr (toRat_zero ▸ y.toRat_nonneg)
  · exact Le.top (by simp [zero])

open Binary64

/-- The product over the target multiplier keeps the order. -/
theorem product_div_mono (h : q.toRat ≤ q'.toRat) (s : Magnitude) (ht : 0 < t.toRat) :
    (.finite false q : Binary64) * .finite false s / .finite false t ≤
      .finite false q' * .finite false s / .finite false t := by
  have hprod : q.toRat * s.toRat ≤ q'.toRat * s.toRat :=
    mul_le_mul_of_nonneg_right h s.toRat_nonneg
  rcases product_div_cases q' s ht with ⟨x', hx', heq'⟩ | ⟨-, hinf'⟩
  swap
  · rw [hinf']
    exact (hasPlusSign_product_div q s ht).le_infinite
  rcases product_div_cases q s ht with ⟨x, hx, heq⟩ | ⟨hbound, -⟩
  · rw [heq, heq']
    exact round_le_round (div_nonneg x.toRat_nonneg ht.le)
      (div_le_div_of_nonneg_right (hx.mono hx' hprod) ht.le)
  · exact absurd hx'.lt_bound (not_lt.mpr (hbound.trans hprod))

/-- So does the formula by the ratio. -/
theorem mul_ratio_mono (h : q.toRat ≤ q'.toRat) (r : Magnitude) :
    (.finite false q : Binary64) * .finite false r ≤ .finite false q' * .finite false r := by
  rw [finite_mul_finite, finite_mul_finite]
  exact round_le_round (mul_nonneg q.toRat_nonneg r.toRat_nonneg)
    (mul_le_mul_of_nonneg_right h r.toRat_nonneg)

/-! ### Where the ratio takes over -/

/-- `p` is the last product whose quotient by `t` is finite. -/
structure IsLastProduct (t p : Magnitude) : Prop where
  fits : p.toRat / t.toRat < overflowBound
  beyond (y : Magnitude) : p.toRat < y.toRat → overflowBound ≤ y.toRat / t.toRat

namespace IsLastProduct

variable (hp : IsLastProduct t p) (ht : 0 < t.toRat)
include hp ht

/-- A finite result of the direct formula comes from that product or from one before. -/
theorem le_round {z : Magnitude}
    (hz : (.finite false q : Binary64) * .finite false s / .finite false t = .finite false z) :
    .finite false z ≤ round false (p.toRat / t.toRat) := by
  rcases product_div_cases q s ht with ⟨x, -, heq⟩ | ⟨-, hinf⟩
  swap
  · rw [hinf] at hz
    cases hz
  have hx := div_nonneg x.toRat_nonneg ht.le
  have hle : x.toRat ≤ p.toRat := by
    by_contra hlt
    rw [heq, round_eq_infinite false hx (hp.beyond x (not_le.mp hlt))] at hz
    cases hz
  rw [← hz, heq]
  exact round_le_round hx (div_le_div_of_nonneg_right hle ht.le)

/-- The direct formula gives finite results up to halfway to the next product. -/
theorem halfway_le
    (h : (.finite false q : Binary64) * .finite false s / .finite false t = .infinite false) :
    p.halfway ≤ q.toRat * s.toRat := by
  rcases product_div_cases q s ht with ⟨x, hx, heq⟩ | ⟨hbound, -⟩
  swap
  · exact p.halfway_le_overflowBound.trans hbound
  refine hx.halfway_le (not_le.mp fun hle => ?_)
  have hfits : x.toRat / t.toRat < overflowBound :=
    (div_le_div_of_nonneg_right hle ht.le).trans_lt hp.fits
  obtain ⟨y, hy, -⟩ := round_eq_finite false (div_nonneg x.toRat_nonneg ht.le) hfits
  rw [heq, hy] at h
  cases h

end IsLastProduct

/-- The last finite result of the direct formula is not above the first result by the ratio `r`,
which is taken as low as it can be. Nothing is asked where no product is too large. -/
def KeepsOrder (s t r : Magnitude) : Prop :=
  ∃ p, IsLastProduct t p ∧ (largest.toRat * s.toRat < p.halfway ∨
    round false (p.toRat / t.toRat) ≤ round false (p.halfway * r.toRat / s.toRat))

namespace KeepsOrder

variable (hk : KeepsOrder s t r) (hs : 0 < s.toRat) (ht : 0 < t.toRat)
include hk hs ht

/-- No finite result of the direct formula is above one by the ratio. -/
theorem product_div_le_mul_ratio {z : Magnitude}
    (hz : (.finite false q : Binary64) * .finite false s / .finite false t = .finite false z)
    (h : (.finite false q' : Binary64) * .finite false s / .finite false t = .infinite false) :
    .finite false z ≤ (.finite false q' : Binary64) * .finite false r := by
  obtain ⟨p, hp, hbeyond | hle⟩ := hk
  · have hhalf := hp.halfway_le ht h
    have hlargest := mul_le_mul_of_nonneg_right q'.toRat_le_largest hs.le
    exact absurd (hhalf.trans hlargest) (not_le.mpr hbeyond)
  · have hlow : p.halfway * r.toRat / s.toRat ≤ q'.toRat * r.toRat := by
      rw [div_le_iff₀ hs, mul_right_comm]
      exact mul_le_mul_of_nonneg_right (hp.halfway_le ht h) r.toRat_nonneg
    have hpos : 0 ≤ p.halfway := p.toRat_nonneg.trans p.toRat_lt_halfway.le
    rw [finite_mul_finite]
    exact le_trans (hp.le_round ht hz)
      (le_trans hle (round_le_round (div_nonneg (mul_nonneg hpos r.toRat_nonneg) hs.le) hlow))

theorem convertQuantity_mono (hr : (.finite false s : Binary64) / .finite false t = .finite false r)
    (h : q.toRat ≤ q'.toRat) :
    convertQuantity (.finite false q) (.finite false s) (.finite false t) ≤
      convertQuantity (.finite false q') (.finite false s) (.finite false t) := by
  have hmono := product_div_mono h s ht
  rcases (hasPlusSign_product_div q s ht).cases with ⟨z, hz⟩ | hinf <;>
    rcases (hasPlusSign_product_div q' s ht).cases with ⟨z', hz'⟩ | hinf'
  · rw [convertQuantity_eq_of_finite (by rw [hz]; rfl),
      convertQuantity_eq_of_finite (by rw [hz']; rfl)]
    exact hmono
  · rw [convertQuantity_eq_of_finite (by rw [hz]; rfl), convertQuantity_eq_of_infinite hinf', hz,
      hr]
    exact hk.product_div_le_mul_ratio hs ht hz hinf'
  · -- The direct formula is not infinite before it is finite.
    rw [hinf, hz'] at hmono
    cases hmono
  · rw [convertQuantity_eq_of_infinite hinf, convertQuantity_eq_of_infinite hinf', hr]
    exact mul_ratio_mono h r

end KeepsOrder

/-! ### The multipliers of the prefixes -/

/-- `p` is the last product, and the results around it are in order. -/
def checkSwitch (s t r p : Magnitude) : Bool :=
  p.steps * (2 * stepsInOne) < largest.halfwaySteps * t.steps &&
    (p = largest ||
      largest.halfwaySteps * t.steps ≤ (p.steps + 2 ^ p.scale) * (2 * stepsInOne)) &&
    (largest.steps * s.steps * (2 * stepsInOne) < p.halfwaySteps * (stepsInOne * stepsInOne) ||
      quickNearest (p.steps * stepsInOne) t.steps ≤
        quickNearest (p.halfwaySteps * r.steps) (2 * s.steps))

theorem isLastProduct_of_steps (ht : 0 < t.toRat)
    (hfits : p.steps * (2 * stepsInOne) < largest.halfwaySteps * t.steps)
    (hbeyond : p = largest ∨
      largest.halfwaySteps * t.steps ≤ (p.steps + 2 ^ p.scale) * (2 * stepsInOne)) :
    IsLastProduct t p := by
  have hs := stepsInOne_cast_pos
  have htq : (0 : ℚ) < t.steps := Nat.cast_pos.mpr (steps_pos ht)
  constructor
  · rw [toRat_div_toRat, ← halfway_largest, halfway, div_lt_div_iff₀ htq (by positivity)]
    exact_mod_cast hfits
  · intro y hy
    rcases hbeyond with rfl | hbeyond
    · exact absurd hy (not_lt.mpr y.toRat_le_largest)
    · have hnext : p.steps + 2 ^ p.scale ≤ y.steps := steps_add_le (toRat_lt_toRat.mp hy)
      have hle := hbeyond.trans (Nat.mul_le_mul_right (2 * stepsInOne) hnext)
      rw [toRat_div_toRat, ← halfway_largest, halfway, div_le_div_iff₀ (by positivity) htq]
      exact_mod_cast hle

theorem round_quotient_eq (p : Magnitude) (ht : 0 < t.toRat) :
    round false (p.toRat / t.toRat) = quickNearest (p.steps * stepsInOne) t.steps := by
  have hs := stepsInOne_cast_pos
  rw [← nearest_eq_quick, nearest_eq_round _ _ (steps_pos ht), Nat.cast_mul, toRat_div_toRat,
    div_right_comm, mul_div_cancel_right₀ _ hs.ne']

theorem round_halfway_mul_eq (p r : Magnitude) (hs : 0 < s.toRat) :
    round false (p.halfway * r.toRat / s.toRat) =
      quickNearest (p.halfwaySteps * r.steps) (2 * s.steps) := by
  have hone := stepsInOne_cast_pos
  have hsteps := steps_pos hs
  rw [← nearest_eq_quick, nearest_eq_round _ _ (by omega), mul_div_assoc, toRat_div_toRat, halfway]
  push_cast
  congr 1
  field_simp

theorem keepsOrder_of_check (hs : 0 < s.toRat) (ht : 0 < t.toRat)
    (h : checkSwitch s t r p = true) : KeepsOrder s t r := by
  have hone := stepsInOne_cast_pos
  unfold checkSwitch at h
  simp only [Bool.and_eq_true, Bool.or_eq_true, decide_eq_true_eq] at h
  obtain ⟨⟨hfits, hbeyond⟩, hrest⟩ := h
  refine ⟨p, isLastProduct_of_steps ht hfits hbeyond, ?_⟩
  rcases hrest with hlt | hle
  · left
    rw [toRat, toRat, div_mul_div_comm, halfway, div_lt_div_iff₀ (by positivity) (by positivity)]
    exact_mod_cast hlt
  · right
    rw [round_quotient_eq p ht, round_halfway_mul_eq p r hs]
    exact hle

/-- The product to try: the overflow bound times `t`, without what is beyond 53 bits. -/
def lastProduct (t : Magnitude) : Magnitude :=
  let n := largest.halfwaySteps * t.steps
  let d := 2 * stepsInOne
  let scale := quickScaleAt n d
  (ofParts? (n / (d * 2 ^ scale)) scale).getD largest

/-- The size of the double nearest to `10 ^ e`. -/
def multiplier? : ℤ → Option Magnitude
  | .ofNat e => quickNearest? (10 ^ e * stepsInOne) 1
  | .negSucc e => quickNearest? stepsInOne (10 ^ (e + 1))

theorem multiplier?_of_powerOfTen {e : ℤ} (h : powerOfTen e = .finite false s) :
    multiplier? e = some s := by
  cases e with
  | ofNat e =>
    rw [powerOfTen, nearest_eq_quick] at h
    rw [multiplier?, quickNearest?_of_finite h]
  | negSucc e =>
    rw [powerOfTen, nearest_eq_quick] at h
    rw [multiplier?, quickNearest?_of_finite h]

theorem checkSwitch_all : ∀ p ∈ UnitTables.standard.prefixes, ∀ q ∈ UnitTables.standard.prefixes,
    ∀ s ∈ multiplier? p.exponent, ∀ t ∈ multiplier? q.exponent,
      ∀ r ∈ quickNearest? (s.steps * stepsInOne) t.steps,
        checkSwitch s t r (lastProduct t) = true := by
  -- 441 pairs, each a few products of numbers of two thousand bits.
  decide +kernel

/-- Between any two prefixes the results are in order where the ratio takes over. -/
theorem SIPrefix.keepsOrder {p q : SIPrefix} (hp : p ∈ UnitTables.standard.prefixes)
    (hq : q ∈ UnitTables.standard.prefixes) (hs : powerOfTen p.exponent = .finite false s)
    (ht : powerOfTen q.exponent = .finite false t) (hspos : 0 < s.toRat) (htpos : 0 < t.toRat)
    (hr : (.finite false s : Binary64) / .finite false t = .finite false r) :
    KeepsOrder s t r := by
  rw [finite_div_finite _ _ _ htpos, bne_self_eq_false, round_quotient_eq s htpos] at hr
  exact keepsOrder_of_check hspos htpos
    (checkSwitch_all p hp q hq s (multiplier?_of_powerOfTen hs) t
      (multiplier?_of_powerOfTen ht) r (quickNearest?_of_finite hr))

end SIUnits
