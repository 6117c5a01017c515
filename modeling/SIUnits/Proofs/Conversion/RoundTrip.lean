import SIUnits.Proofs.Conversion.Steps

/-! There and back again. A quantity that is converted, written out, and converted back from what
was written comes out within a few roundings of itself (`convertLine_roundTrip`): reading what was
written loses nothing, and the errors of the two multipliers cancel. -/
namespace SIUnits

open Magnitude

/-- Far from both ends of the doubles. -/
structure AwayFromLimits (v : ℚ) : Prop where
  lower : 2 ^ (-1000 : ℤ) ≤ v
  upper : v ≤ 2 ^ (1000 : ℕ)

private theorem minNormal_lt_away : 4 * minNormal ≤ 2 ^ (-1000 : ℤ) := by
  have h : (2 : ℚ) ^ (2 : ℤ) = 4 := by norm_num
  rw [minNormal, ← h, ← zpow_add₀ two_ne_zero]
  exact zpow_le_zpow_right₀ one_le_two (by decide)

private theorem away_lt_overflowBound : 4 * (2 : ℚ) ^ (1000 : ℕ) < overflowBound := by
  have h : (4 : ℚ) * 2 ^ 1000 = 2 ^ (2 + 1000) := by
    rw [pow_add]
    norm_num
  rw [h]
  exact lt_overflowBound (pow_le_pow_right₀ one_le_two (by decide))

/-- A handful of roundings move the limits by a factor of two at most. -/
private theorem WithinRoundings.lower_away {k : ℕ} {v z : ℚ} (h : WithinRoundings k v z)
    (hv : 2 ^ (-1000 : ℤ) ≤ v) (hk : k ≤ 8) : 2 ^ (-1000 : ℤ) / 2 ≤ z := by
  have hv0 : 0 ≤ v := le_trans (by positivity) hv
  exact (div_le_div_of_nonneg_right hv two_pos.le).trans (h.half_le hv0 hk)

private theorem WithinRoundings.upper_away {k : ℕ} {v z : ℚ} (h : WithinRoundings k v z)
    (hv : v ≤ 2 ^ (1000 : ℕ)) (hz : 0 ≤ z) (hk : k ≤ 8) : z ≤ 2 * 2 ^ (1000 : ℕ) :=
  (h.le_double hz hk).trans (mul_le_mul_of_nonneg_left hv two_pos.le)

variable {q s t : Magnitude}

/-- A conversion is two roundings away from the exact ratio if its result is not close to the ends
of the doubles. Its product must not be small, but it may be too large. -/
theorem convertQuantity_within_of_away (hs : IsMultiplierSize s.toRat)
    (ht : IsMultiplierSize t.toRat) (hprod : 2 ^ (-1000 : ℤ) / 2 ≤ q.toRat * s.toRat)
    (hlow : 2 ^ (-1000 : ℤ) / 2 ≤ q.toRat * s.toRat / t.toRat)
    (hhigh : q.toRat * s.toRat / t.toRat ≤ 2 * 2 ^ (1000 : ℕ)) :
    ∃ z, convertQuantity (.finite false q) (.finite false s) (.finite false t) = .finite false z ∧
      WithinRoundings 2 (q.toRat * s.toRat / t.toRat) z.toRat := by
  have htpos : 0 < t.toRat := lt_of_lt_of_le (by positivity) ht.1
  obtain ⟨hratio, hratio'⟩ := ratio_bounds hs ht
  have hmin := minNormal_lt_away
  have hmax := away_lt_overflowBound
  have hpos := minNormal_pos
  have hkept : (1 : ℚ) / 2 ≤ keptPart := by norm_num [keptPart]
  generalize (2 : ℚ) ^ (-1000 : ℤ) = low at *
  generalize (2 : ℚ) ^ (1000 : ℕ) = high at *
  refine convertQuantity_within (by linarith) hratio hratio' htpos ?_ ?_
  · have := mul_le_mul_of_nonneg_left hkept (show 0 ≤ q.toRat * s.toRat / t.toRat by linarith)
    linarith
  · have := mul_le_mul_of_nonneg_left hkept (show 0 ≤ overflowBound by linarith)
    linarith

variable {E F : ℚ}

/-- The way there and the way back, with the exact multipliers in the hypotheses and the rounded
ones in the conversions. -/
theorem convertQuantity_roundTrip (hF : 0 < F)
    (hs : IsMultiplierSize s.toRat) (ht : IsMultiplierSize t.toRat)
    (hsE : WithinRoundings 1 E s.toRat) (htF : WithinRoundings 1 F t.toRat)
    (hq : AwayFromLimits q.toRat) (hres : AwayFromLimits (q.toRat * E / F))
    (hprod : 2 ^ (-1000 : ℤ) ≤ q.toRat * E) :
    ∃ z w,
      convertQuantity (.finite false q) (.finite false s) (.finite false t) = .finite false z ∧
      convertQuantity (.finite false z) (.finite false t) (.finite false s) = .finite false w ∧
      WithinRoundings 4 q.toRat w.toRat := by
  have hspos : 0 < s.toRat := lt_of_lt_of_le (by positivity) hs.1
  have htpos : 0 < t.toRat := lt_of_lt_of_le (by positivity) ht.1
  have hq0 := q.toRat_nonneg
  have hthere : WithinRoundings 1 (q.toRat * E) (q.toRat * s.toRat) := hsE.mul_left hq0
  have hresult : WithinRoundings 2 (q.toRat * E / F) (q.toRat * s.toRat / t.toRat) :=
    (hthere.div_right hF.le).trans (htF.div_left (mul_nonneg hq0 hspos.le) hF htpos)
  obtain ⟨z, hz, hzw⟩ := convertQuantity_within_of_away hs ht
    (hthere.lower_away hprod (by decide)) (hresult.lower_away hres.lower (by decide))
    (hresult.upper_away hres.upper (by positivity) (by decide))
  have hz0 := z.toRat_nonneg
  -- On the way back the multipliers change places and cancel.
  have hback : WithinRoundings 2 (q.toRat * s.toRat) (z.toRat * t.toRat) := by
    have := hzw.mul_right htpos.le
    rwa [div_mul_cancel₀ _ htpos.ne'] at this
  have hreturn : WithinRoundings 2 q.toRat (z.toRat * t.toRat / s.toRat) := by
    have := hback.div_right hspos.le
    rwa [mul_div_cancel_right₀ _ hspos.ne'] at this
  obtain ⟨w, hw, hww⟩ := convertQuantity_within_of_away ht hs
    ((hthere.trans hback).lower_away hprod (by decide))
    (hreturn.lower_away hq.lower (by decide))
    (hreturn.upper_away hq.upper (by positivity) (by decide))
  exact ⟨z, w, hz, hw, hreturn.trans hww⟩

/-- A quantity away from the limits of the doubles comes back from the other unit and from its
written form within one part in `2 ^ 49`, and zero comes back as it is. The product with the source
multiplier may be beyond the largest double. -/
theorem convertLine_roundTrip {a b : String} {u v : PrefixedUnit}
    (ha : (PrefixedUnit.resolve a).result = .ok u) (hb : (PrefixedUnit.resolve b).result = .ok v)
    (hroot : u.root = v.root) :
    (∀ q : Magnitude, AwayFromLimits q.toRat →
      AwayFromLimits (q.toRat * 10 ^ (u.exponent - v.exponent)) →
      2 ^ (-1000 : ℤ) ≤ q.toRat * 10 ^ u.exponent →
      ∃ r r' w, (convertLine (queryLine (Binary64.finite false q).text a b)).result = .ok r ∧
        (convertLine (queryLine r.quantity.text b a)).result = .ok r' ∧
        r'.quantity = .finite false w ∧ |w.toRat - q.toRat| ≤ 2 ^ (-49 : ℤ) * q.toRat) ∧
    ∃ r r', (convertLine (queryLine Binary64.zero.text a b)).result = .ok r ∧
      (convertLine (queryLine r.quantity.text b a)).result = .ok r' ∧ r'.quantity = .zero := by
  obtain ⟨hul, huh, s, hs, hsn⟩ := PrefixedUnit.multiplier_of_resolve ha
  obtain ⟨hvl, hvh, t, ht, htn⟩ := PrefixedUnit.multiplier_of_resolve hb
  constructor
  · intro q hq hres hprod
    rw [zpow_sub₀ (by norm_num), ← mul_div_assoc] at hres
    obtain ⟨z, w, hz, hw, hqw⟩ := convertQuantity_roundTrip (by positivity)
      (hsn.bounds_of_ten_zpow hul huh) (htn.bounds_of_ten_zpow hvl hvh)
      (hsn.within_of_ten_zpow hul) (htn.within_of_ten_zpow hvl) hq hres hprod
    rw [← hs, ← ht] at hz hw
    have hthere := convertLine_queryLine ha hb hroot hz
    have hback := convertLine_queryLine hb ha hroot.symm hw
    refine ⟨_, _, w, hthere, hback, rfl, ?_⟩
    calc |w.toRat - q.toRat| ≤ 2 * (4 : ℕ) / 2 ^ 53 * q.toRat :=
          hqw.abs_sub_le q.toRat_nonneg (by decide)
      _ ≤ 2 ^ (-49 : ℤ) * q.toRat := by
          apply mul_le_mul_of_nonneg_right _ q.toRat_nonneg
          norm_num
  · have hz := convertQuantity_zero s (htn.pos_of_ten_zpow hvl)
    have hw := convertQuantity_zero t (hsn.pos_of_ten_zpow hul)
    rw [← hs, ← ht] at hz hw
    have hthere := convertLine_queryLine ha hb hroot hz
    have hback := convertLine_queryLine hb ha hroot.symm hw
    exact ⟨_, _, hthere, hback, rfl⟩

/-- Between the two largest prefixes, with a quantity whose product is beyond the largest double. -/
theorem convertLine_roundTrip_yotta_zetta : ∃ q : Magnitude, q.toRat = 2 ^ (990 : ℤ) ∧
    overflowBound ≤ q.toRat * 10 ^ (24 : ℤ) ∧
    ∃ r r' w, (convertLine (queryLine (Binary64.finite false q).text "Ym" "Zm")).result = .ok r ∧
      (convertLine (queryLine r.quantity.text "Zm" "Ym")).result = .ok r' ∧
      r'.quantity = .finite false w ∧ |w.toRat - q.toRat| ≤ 2 ^ (-49 : ℤ) * q.toRat := by
  obtain ⟨q, hq⟩ := exists_toRat_eq_two_zpow (n := 990) (by decide) (by decide)
  have ha : (PrefixedUnit.resolve "Ym").result = .ok (.ofParts ⟨"Y", "yotta", 24⟩ .meter) :=
    PrefixedUnit.resolve_of_spells (.intro (by decide) .meter)
  have hb : (PrefixedUnit.resolve "Zm").result = .ok (.ofParts ⟨"Z", "zetta", 21⟩ .meter) :=
    PrefixedUnit.resolve_of_spells (.intro (by decide) .meter)
  have hyotta : (2 : ℚ) ^ (34 : ℤ) ≤ 10 ^ (24 : ℤ) := by norm_num
  have hthousand : 1 ≤ (10 : ℚ) ^ (3 : ℤ) ∧ (10 : ℚ) ^ (3 : ℤ) ≤ 2 ^ (10 : ℤ) := by norm_num
  have hlow : (2 : ℚ) ^ (-1000 : ℤ) ≤ 2 ^ (990 : ℤ) := zpow_le_zpow_right₀ one_le_two (by decide)
  have hhigh : (2 : ℚ) ^ (990 : ℤ) * 2 ^ (10 : ℤ) = 2 ^ (1000 : ℕ) := by
    rw [← zpow_add₀ two_ne_zero, ← zpow_natCast]
    rfl
  have hbound : overflowBound ≤ 2 ^ (990 : ℤ) * 2 ^ (34 : ℤ) := by
    rw [← zpow_add₀ two_ne_zero]
    exact sub_le_self _ (by positivity)
  have hpos : (0 : ℚ) < 2 ^ (990 : ℤ) := by positivity
  rw [← hq] at hlow hhigh hbound hpos
  have hq' : AwayFromLimits q.toRat :=
    ⟨hlow, (le_mul_of_one_le_right hpos.le (by norm_num)).trans hhigh.le⟩
  have hres : AwayFromLimits (q.toRat * 10 ^ (3 : ℤ)) :=
    ⟨hlow.trans (le_mul_of_one_le_right hpos.le hthousand.1),
      (mul_le_mul_of_nonneg_left hthousand.2 hpos.le).trans hhigh.le⟩
  have hlarge : overflowBound ≤ q.toRat * 10 ^ (24 : ℤ) :=
    hbound.trans (mul_le_mul_of_nonneg_left hyotta hpos.le)
  have hprod : 2 ^ (-1000 : ℤ) ≤ q.toRat * 10 ^ (24 : ℤ) :=
    hlow.trans (le_mul_of_one_le_right hpos.le (le_trans (by norm_num) hyotta))
  exact ⟨q, hq, hlarge, (convertLine_roundTrip ha hb rfl).1 q hq' hres hprod⟩

end SIUnits
