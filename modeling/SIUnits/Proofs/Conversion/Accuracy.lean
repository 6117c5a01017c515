import SIUnits.Proofs.Conversion.Steps

/-! How far a converted quantity is from the exact one. Both formulas round twice and use two
rounded multipliers, which makes four roundings (`Query.convert_accurate`). -/
namespace SIUnits

open Magnitude

variable {e f : ℤ} {q s t : Magnitude}

theorem overflowBound_eq : overflowBound = (2 ^ 54 - 1) * 2 ^ 970 := by
  rw [overflowBound, sub_mul, one_mul, ← pow_add]

/-- Three roundings keep a value below the bound on overflow if they keep its part of the range
so. -/
theorem mul_two_pow_lt_of_kept {c : ℚ} (h : c * 2 ^ 54 < (2 ^ 54 - 1) * keptPart ^ 3) :
    c * 2 ^ 1024 < overflowBound * keptPart ^ 3 := by
  have hpow : (2 : ℚ) ^ 1024 = 2 ^ 54 * 2 ^ 970 := pow_add 2 54 970
  rw [overflowBound_eq, hpow, ← mul_assoc, mul_right_comm _ (2 ^ 970)]
  exact mul_lt_mul_of_pos_right h (by positivity)

/-- Four roundings from the exact multipliers to the result. -/
theorem convertQuantity_accurate (hs : IsMultiplier e s) (ht : IsMultiplier f t)
    (hprod : 2 ^ (-1021 : ℤ) ≤ q.toRat * 10 ^ e)
    (hlow : 2 ^ (-1021 : ℤ) ≤ q.toRat * 10 ^ (e - f))
    (hhigh : q.toRat * 10 ^ (e - f) ≤ 2 ^ 1023) :
    ∃ z, convertQuantity (.finite false q) (.finite false s) (.finite false t) = .finite false z ∧
      WithinRoundings 4 (q.toRat * 10 ^ (e - f)) z.toRat := by
  have hq := q.toRat_nonneg
  have hmin : minNormal * 2 = 2 ^ (-1021 : ℤ) := by
    rw [minNormal, ← zpow_add_one₀ two_ne_zero]
    rfl
  have hkept := keptPart_pos
  have hw := hs.quotient_within ht hq
  have hnormal : minNormal ≤ q.toRat * s.toRat := by
    have := (hs.product_within hq).half_le (by positivity) (by decide)
    linarith
  have hlow' : minNormal ≤ q.toRat * s.toRat / t.toRat * keptPart := by
    have hhalf : (1 : ℚ) / 2 ≤ keptPart ^ 3 := by norm_num [keptPart]
    calc minNormal = minNormal * 2 * (1 / 2) := by ring
      _ ≤ q.toRat * 10 ^ (e - f) * keptPart ^ 3 :=
        mul_le_mul (hmin.trans_le hlow) hhalf (by norm_num) (by positivity)
      _ = q.toRat * 10 ^ (e - f) * keptPart ^ 2 * keptPart := by ring
      _ ≤ q.toRat * s.toRat / t.toRat * keptPart := mul_le_mul_of_nonneg_right hw.lower hkept.le
  have hhigh' : q.toRat * s.toRat / t.toRat < overflowBound * keptPart := by
    refine lt_of_mul_lt_mul_right ?_ (pow_pos hkept 2).le
    calc q.toRat * s.toRat / t.toRat * keptPart ^ 2 ≤ 2 ^ 1023 := hw.upper.trans hhigh
      _ = 1 / 2 * 2 ^ 1024 := by
        rw [pow_succ' (2 : ℚ) 1023, one_div, inv_mul_cancel_left₀ two_ne_zero]
      _ < overflowBound * keptPart ^ 3 := mul_two_pow_lt_of_kept (by norm_num [keptPart])
      _ = overflowBound * keptPart * keptPart ^ 2 := by ring
  obtain ⟨hratio, hratio'⟩ := ratio_bounds hs.size ht.size
  obtain ⟨z, hz, hzw⟩ := convertQuantity_within hnormal hratio hratio' ht.pos hlow' hhigh'
  exact ⟨z, hz, hw.trans hzw⟩

/-- A quantity whose product and result are in the normal range is converted to within one part in
`2 ^ 50` of the exact ratio of the two powers of ten. That is so for both formulas: the product over
the target multiplier, and the one by the ratio of the multipliers where that is infinite. -/
theorem Query.convert_accurate {query : Query} {u v : PrefixedUnit}
    (hu : (PrefixedUnit.resolve query.sourceUnit).result = .ok u)
    (hv : (PrefixedUnit.resolve query.targetUnit).result = .ok v) (hroot : u.root = v.root)
    {q : Magnitude} (hq : query.quantity = .finite false q)
    (hprod : 2 ^ (-1021 : ℤ) ≤ q.toRat * 10 ^ u.exponent)
    (hlow : 2 ^ (-1021 : ℤ) ≤ q.toRat * 10 ^ (u.exponent - v.exponent))
    (hhigh : q.toRat * 10 ^ (u.exponent - v.exponent) ≤ 2 ^ 1023) :
    ∃ r, query.convert.result = .ok ⟨.finite false r, query.targetUnit, query⟩ ∧
      |r.toRat - q.toRat * 10 ^ (u.exponent - v.exponent)| ≤
        2 ^ (-50 : ℤ) * (q.toRat * 10 ^ (u.exponent - v.exponent)) ∧
      (query.quantity * u.multiplier / v.multiplier = .finite false r ∨
        query.quantity * u.multiplier / v.multiplier = .infinite false ∧
          query.quantity * (u.multiplier / v.multiplier) = .finite false r) := by
  obtain ⟨s, hs, hsm⟩ := PrefixedUnit.isMultiplier_of_resolve hu
  obtain ⟨t, ht, htm⟩ := PrefixedUnit.isMultiplier_of_resolve hv
  obtain ⟨r, hr, hw⟩ := convertQuantity_accurate hsm htm hprod hlow hhigh
  have hvalid : query.Valid := ⟨by rw [hq]; rfl, by rw [hq]; rfl⟩
  rw [hq, hs, ht]
  refine ⟨r, Query.convert_of_finite hu hv hroot hvalid (by rw [hq, hs, ht, hr]), ?_, ?_⟩
  · calc |r.toRat - q.toRat * 10 ^ (u.exponent - v.exponent)|
        ≤ 2 * (4 : ℕ) / 2 ^ 53 * (q.toRat * 10 ^ (u.exponent - v.exponent)) :=
          hw.abs_sub_le (le_trans (by positivity) hlow) (by decide)
      _ = 2 ^ (-50 : ℤ) * (q.toRat * 10 ^ (u.exponent - v.exponent)) := by norm_num
  · rcases (hasPlusSign_product_div q s htm.pos).cases with ⟨z, hz⟩ | hinf
    · rw [convertQuantity_eq_of_finite (by rw [hz]; rfl)] at hr
      exact Or.inl hr
    · rw [convertQuantity_eq_of_infinite hinf] at hr
      exact Or.inr ⟨hinf, hr⟩

/-- By the ratio of the multipliers, as the product is beyond the largest double. -/
theorem Query.convert_accurate_yottametres : ∃ q r : Magnitude, q.toRat = 2 ^ (990 : ℤ) ∧
    overflowBound ≤ q.toRat * 10 ^ (24 : ℤ) ∧
    (Query.convert ⟨.finite false q, "q", "Ym", "Zm"⟩).result =
      .ok ⟨.finite false r, "Zm", ⟨.finite false q, "q", "Ym", "Zm"⟩⟩ ∧
    |r.toRat - q.toRat * 10 ^ (3 : ℤ)| ≤ 2 ^ (-50 : ℤ) * (q.toRat * 10 ^ (3 : ℤ)) := by
  obtain ⟨q, hq⟩ := exists_toRat_eq_two_zpow (n := 990) (by decide) (by decide)
  have hyotta : (PrefixedUnit.resolve "Ym").result = .ok (.ofParts ⟨"Y", "yotta", 24⟩ .meter) :=
    PrefixedUnit.resolve_of_spells (.intro (by decide) .meter)
  have hzetta : (PrefixedUnit.resolve "Zm").result = .ok (.ofParts ⟨"Z", "zetta", 21⟩ .meter) :=
    PrefixedUnit.resolve_of_spells (.intro (by decide) .meter)
  have hpos : (0 : ℚ) < 2 ^ (990 : ℤ) := by positivity
  have hsmall : (2 : ℚ) ^ (-1021 : ℤ) ≤ 2 ^ (990 : ℤ) := zpow_le_zpow_right₀ one_le_two (by decide)
  have hprod : 2 ^ (-1021 : ℤ) ≤ q.toRat * 10 ^ (24 : ℤ) := by
    rw [hq]
    exact hsmall.trans (le_mul_of_one_le_right hpos.le (by norm_num))
  have hlow : 2 ^ (-1021 : ℤ) ≤ q.toRat * 10 ^ (3 : ℤ) := by
    rw [hq]
    exact hsmall.trans (le_mul_of_one_le_right hpos.le (by norm_num))
  have hhigh : q.toRat * 10 ^ (3 : ℤ) ≤ 2 ^ 1023 := by
    rw [hq]
    calc (2 : ℚ) ^ (990 : ℤ) * 10 ^ (3 : ℤ) ≤ 2 ^ (990 : ℤ) * 2 ^ (33 : ℤ) :=
          mul_le_mul_of_nonneg_left (by norm_num) hpos.le
      _ = 2 ^ 1023 := by rw [← zpow_add₀ two_ne_zero, ← zpow_natCast]; rfl
  obtain ⟨r, hr, herr, -⟩ := @Query.convert_accurate ⟨.finite false q, "q", "Ym", "Zm"⟩ _ _
    hyotta hzetta rfl _ rfl hprod hlow hhigh
  refine ⟨q, r, hq, ?_, hr, herr⟩
  rw [hq]
  calc overflowBound ≤ 2 ^ 1024 := sub_le_self _ (by positivity)
    _ = 2 ^ (990 : ℤ) * 2 ^ (34 : ℤ) := by rw [← zpow_add₀ two_ne_zero, ← zpow_natCast]; rfl
    _ ≤ 2 ^ (990 : ℤ) * 10 ^ (24 : ℤ) := mul_le_mul_of_nonneg_left (by norm_num) hpos.le

end SIUnits
