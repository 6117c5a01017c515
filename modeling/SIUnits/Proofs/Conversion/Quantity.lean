import SIUnits.Conversion.Convert
import SIUnits.Proofs.Binary64.Error

/-! The converted quantity. It always has a plus sign and is never `nan`
(`hasPlusSign_convertQuantity`), so that it is finite or too large; and within the normal range it
is two roundings away from the exact ratio, whichever formula gives it
(`convertQuantity_within`). -/
namespace SIUnits

open Magnitude

namespace Binary64

/-- Not `nan`, and not with a minus sign: zero is the positive one. -/
def HasPlusSign : Binary64 → Prop
  | .finite negative _ => negative = false
  | .infinite negative => negative = false
  | .nan => False

theorem HasPlusSign.cases {x : Binary64} (h : x.HasPlusSign) :
    (∃ y, x = .finite false y) ∨ x = .infinite false := by
  cases x with
  | finite s y => exact Or.inl ⟨y, by rw [show s = false from h]⟩
  | infinite s => exact Or.inr (by rw [show s = false from h])
  | nan => exact h.elim

theorem hasPlusSign_round (v : ℚ) : (round false v).HasPlusSign := by
  cases h : round? v with
  | none => rw [round_of_none false h]; rfl
  | some x => rw [round_of_some false h]; rfl

theorem HasPlusSign.finite_mul {x : Binary64} (hx : x.HasPlusSign) {q : Magnitude}
    (hq : 0 < q.toRat) : (.finite false q * x).HasPlusSign := by
  rcases hx.cases with ⟨y, rfl⟩ | rfl
  · rw [finite_mul_finite]; exact hasPlusSign_round _
  · rw [finite_mul_infinite _ _ hq]; rfl

end Binary64

open Binary64

/-- The quantity comes from the product, or from the ratio where the product came out infinite. -/
theorem convertQuantity_eq_of_finite {q s t : Binary64} (h : (q * s / t).isFinite = true) :
    convertQuantity q s t = q * s / t := by
  unfold convertQuantity
  rw [if_pos h]

theorem convertQuantity_eq_of_infinite {q s t : Binary64} (h : q * s / t = .infinite false) :
    convertQuantity q s t = q * (s / t) := by
  unfold convertQuantity
  rw [h]
  exact if_neg (by decide)

theorem zero_mul_div (n : Bool) (s : Magnitude) {t : Magnitude} (ht : 0 < t.toRat) :
    (.finite n .zero : Binary64) * .finite false s / .finite false t = .finite n .zero := by
  rw [finite_mul_finite, toRat_zero, zero_mul, round_zero, finite_div_finite _ _ _ ht, toRat_zero,
    zero_div, round_zero, Bool.bne_false, Bool.bne_false]

/-- A zero stays the zero that it is. -/
theorem convertQuantity_signedZero (n : Bool) (s : Magnitude) {t : Magnitude} (ht : 0 < t.toRat) :
    convertQuantity (.finite n .zero) (.finite false s) (.finite false t) = .finite n .zero := by
  have h := zero_mul_div n s ht
  rw [convertQuantity_eq_of_finite (by rw [h]; rfl), h]

theorem convertQuantity_zero (s : Magnitude) {t : Magnitude} (ht : 0 < t.toRat) :
    convertQuantity .zero (.finite false s) (.finite false t) = .zero :=
  convertQuantity_signedZero false s ht

variable {q s t : Magnitude}

/-- The direct formula rounds twice, or its product is too large. -/
theorem product_div_cases (q s : Magnitude) (ht : 0 < t.toRat) :
    (∃ p : Magnitude, p.IsNearest (q.toRat * s.toRat) ∧
      (.finite false q : Binary64) * .finite false s / .finite false t =
        round false (p.toRat / t.toRat)) ∨
    overflowBound ≤ q.toRat * s.toRat ∧
      (.finite false q : Binary64) * .finite false s / .finite false t = .infinite false := by
  have hqs := mul_nonneg q.toRat_nonneg s.toRat_nonneg
  rw [finite_mul_finite, bne_self_eq_false]
  by_cases hlt : q.toRat * s.toRat < overflowBound
  · obtain ⟨p, hp, hpn⟩ := round_eq_finite false hqs hlt
    exact Or.inl ⟨p, hpn, by rw [hp, finite_div_finite _ _ _ ht, bne_self_eq_false]⟩
  · have hle := not_lt.mp hlt
    exact Or.inr ⟨hle, by rw [round_eq_infinite false hqs hle, infinite_div_finite]; rfl⟩

theorem hasPlusSign_product_div (q s : Magnitude) (ht : 0 < t.toRat) :
    ((.finite false q : Binary64) * .finite false s / .finite false t).HasPlusSign := by
  rcases product_div_cases q s ht with ⟨p, -, h⟩ | ⟨-, h⟩
  · rw [h]
    exact hasPlusSign_round _
  · rw [h]
    rfl

/-- Zero never reaches the second formula, where it could meet an infinity. -/
theorem hasPlusSign_convertQuantity (q s : Magnitude) (ht : 0 < t.toRat) :
    (convertQuantity (.finite false q) (.finite false s) (.finite false t)).HasPlusSign := by
  rcases (hasPlusSign_product_div q s ht).cases with ⟨z, hz⟩ | hinf
  · rw [convertQuantity_eq_of_finite (by rw [hz]; rfl), hz]
    rfl
  rw [convertQuantity_eq_of_infinite hinf]
  have hq : 0 < q.toRat := by
    refine q.toRat_nonneg.lt_of_ne fun h0 => ?_
    have hq0 : q = Magnitude.zero := toRat_injective (h0.symm.trans toRat_zero.symm)
    have hz := zero_mul_div false s ht
    rw [hq0] at hinf
    exact Binary64.noConfusion (hz.symm.trans hinf)
  refine HasPlusSign.finite_mul ?_ hq
  rw [finite_div_finite _ _ _ ht]
  exact hasPlusSign_round _

/-- The converted quantity is too large if both formulas say so. -/
theorem convertQuantity_eq_infinite_iff (q s : Magnitude) (ht : 0 < t.toRat) :
    convertQuantity (.finite false q) (.finite false s) (.finite false t) = .infinite false ↔
      (.finite false q : Binary64) * .finite false s / .finite false t = .infinite false ∧
        (.finite false q : Binary64) * (.finite false s / .finite false t) = .infinite false := by
  rcases (hasPlusSign_product_div q s ht).cases with ⟨z, hz⟩ | hinf
  · rw [convertQuantity_eq_of_finite (by rw [hz]; rfl), hz]
    simp
  · rw [convertQuantity_eq_of_infinite hinf]
    simp [hinf]

/-- The direct formula within the normal range, after its product. -/
private theorem exists_round_within {p : Magnitude} (hpn : p.IsNearest (q.toRat * s.toRat))
    (hq : minNormal ≤ q.toRat * s.toRat) (ht : 0 < t.toRat)
    (hlow : minNormal ≤ q.toRat * s.toRat / t.toRat * keptPart)
    (hhigh : q.toRat * s.toRat / t.toRat < overflowBound * keptPart) :
    ∃ z, round false (p.toRat / t.toRat) = .finite false z ∧
      WithinRoundings 2 (q.toRat * s.toRat / t.toRat) z.toRat := by
  have hpw := (hpn.within hq).div_right ht.le
  have hplow : minNormal ≤ p.toRat / t.toRat := by
    have := hpw.lower
    rw [pow_one] at this
    linarith
  have hphigh : p.toRat / t.toRat < overflowBound := by
    have := hpw.upper
    rw [pow_one] at this
    exact lt_of_mul_lt_mul_right (this.trans_lt hhigh) keptPart_pos.le
  obtain ⟨z, hz, hzn⟩ := round_eq_finite false (minNormal_pos.le.trans hplow) hphigh
  exact ⟨z, hz, hpw.trans (hzn.within hplow)⟩

/-- The formula by the ratio within the normal range. -/
private theorem mul_ratio_within (hs : minNormal ≤ s.toRat / t.toRat)
    (hs' : s.toRat / t.toRat < overflowBound) (ht : 0 < t.toRat)
    (hlow : minNormal ≤ q.toRat * s.toRat / t.toRat * keptPart)
    (hhigh : q.toRat * s.toRat / t.toRat < overflowBound * keptPart) :
    ∃ z, (.finite false q : Binary64) * (.finite false s / .finite false t) = .finite false z ∧
      WithinRoundings 2 (q.toRat * s.toRat / t.toRat) z.toRat := by
  obtain ⟨r, hr, hrn⟩ := round_eq_finite false (minNormal_pos.le.trans hs) hs'
  have hrw := (hrn.within hs).mul_left q.toRat_nonneg
  rw [← mul_div_assoc] at hrw
  have hrlow : minNormal ≤ q.toRat * r.toRat := by
    have := hrw.lower
    rw [pow_one] at this
    linarith
  have hrhigh : q.toRat * r.toRat < overflowBound := by
    have := hrw.upper
    rw [pow_one] at this
    exact lt_of_mul_lt_mul_right (this.trans_lt hhigh) keptPart_pos.le
  obtain ⟨z, hz, hzn⟩ := round_eq_finite false (minNormal_pos.le.trans hrlow) hrhigh
  refine ⟨z, ?_, hrw.trans (hzn.within hrlow)⟩
  rw [finite_div_finite _ _ _ ht, bne_self_eq_false, hr, finite_mul_finite]
  exact hz

/-- The product may overflow; the ratio of the multipliers and the exact result may not, and neither
may the product or the result underflow. -/
theorem convertQuantity_within (hq : minNormal ≤ q.toRat * s.toRat)
    (hs : minNormal ≤ s.toRat / t.toRat) (hs' : s.toRat / t.toRat < overflowBound)
    (ht : 0 < t.toRat) (hlow : minNormal ≤ q.toRat * s.toRat / t.toRat * keptPart)
    (hhigh : q.toRat * s.toRat / t.toRat < overflowBound * keptPart) :
    ∃ z, convertQuantity (.finite false q) (.finite false s) (.finite false t) = .finite false z ∧
      WithinRoundings 2 (q.toRat * s.toRat / t.toRat) z.toRat := by
  rcases product_div_cases q s ht with ⟨p, hpn, hdirect⟩ | ⟨-, hinf⟩
  · obtain ⟨z, hz, hw⟩ := exists_round_within hpn hq ht hlow hhigh
    rw [hz] at hdirect
    exact ⟨z, by rw [convertQuantity_eq_of_finite (by rw [hdirect]; rfl), hdirect], hw⟩
  · rw [convertQuantity_eq_of_infinite hinf]
    exact mul_ratio_within hs hs' ht hlow hhigh

end SIUnits
