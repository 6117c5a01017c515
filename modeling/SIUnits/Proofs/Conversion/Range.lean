import SIUnits.Proofs.Binary64.Halfway
import SIUnits.Proofs.Conversion.Accuracy

/-! The ends of the range. A conversion is refused as too large only for its result, and never for
its product alone (`Query.convert_fits`). At the small end it is the product that decides: where it
rounds to zero so does the result, whatever its own size (`Query.convert_eq_zero_iff`). -/
namespace SIUnits

open Magnitude

variable {e f : ℤ} {q s t : Magnitude}

/-! ### Too large -/

theorem overflowBound_le_of_kept {c : ℚ} (h : 2 ^ 54 - 1 ≤ c * 2 ^ 54 * keptPart ^ 3) :
    overflowBound ≤ c * 2 ^ 1024 * keptPart ^ 3 := by
  have hpow : (2 : ℚ) ^ 1024 = 2 ^ 54 * 2 ^ 970 := pow_add 2 54 970
  rw [overflowBound_eq, hpow, ← mul_assoc, mul_right_comm _ (2 ^ 970)]
  exact mul_le_mul_of_nonneg_right h (by positivity)

/-- Below the bound the formula by the ratio is finite, whatever the product is. -/
theorem exists_mul_ratio (hs : IsMultiplier e s) (ht : IsMultiplier f t)
    (h : q.toRat * 10 ^ (e - f) ≤ (1 - 2 ^ (-50 : ℤ)) * 2 ^ 1024) :
    ∃ z, (.finite false q : Binary64) * (.finite false s / .finite false t) = .finite false z := by
  obtain ⟨r, hr, -, hw⟩ := hs.exists_ratio ht
  have hlt : q.toRat * r.toRat < overflowBound := by
    refine lt_of_mul_lt_mul_right ?_ (pow_pos keptPart_pos 3).le
    calc q.toRat * r.toRat * keptPart ^ 3 ≤ q.toRat * 10 ^ (e - f) := (hw _ q.toRat_nonneg).upper
      _ ≤ (1 - 2 ^ (-50 : ℤ)) * 2 ^ 1024 := h
      _ < overflowBound * keptPart ^ 3 := mul_two_pow_lt_of_kept (by norm_num [keptPart])
  obtain ⟨z, hz, -⟩ :=
    Binary64.round_eq_finite false (mul_nonneg q.toRat_nonneg r.toRat_nonneg) hlt
  exact ⟨z, by rw [hr, Binary64.finite_mul_finite]; exact hz⟩

/-- One finite formula is enough for a result. -/
theorem exists_convertQuantity (q s : Magnitude) (ht : 0 < t.toRat)
    (h : ∃ z, (.finite false q : Binary64) * (.finite false s / .finite false t) =
      .finite false z) :
    ∃ z, convertQuantity (.finite false q) (.finite false s) (.finite false t) =
      .finite false z := by
  rcases (hasPlusSign_convertQuantity q s ht).cases with hz | hinf
  · exact hz
  · obtain ⟨z, hz⟩ := h
    have := ((convertQuantity_eq_infinite_iff q s ht).mp hinf).2
    rw [hz] at this
    cases this

/-- The ratio of a multiplier to itself is one, so the second formula gives the quantity back. -/
theorem mul_ratio_self (q : Magnitude) (hs : 0 < s.toRat) :
    (.finite false q : Binary64) * (.finite false s / .finite false s) = .finite false q := by
  obtain ⟨one, hone⟩ := exists_toRat_eq_two_zpow (n := 0) (by decide) (by decide)
  rw [zpow_zero] at hone
  rw [Binary64.finite_div_finite _ _ _ hs, div_self hs.ne', ← hone, Binary64.round_toRat,
    Binary64.finite_mul_finite, hone, mul_one, Binary64.round_toRat]
  rfl

/-- A quotient that is too large by more than one rounding comes out infinite. -/
theorem product_div_eq_infinite (ht : IsMultiplierSize t.toRat)
    (h : overflowBound ≤ q.toRat * s.toRat / t.toRat * keptPart) :
    (.finite false q : Binary64) * .finite false s / .finite false t = .infinite false := by
  have htpos : 0 < t.toRat := lt_of_lt_of_le (by positivity) ht.1
  have hqs : 0 ≤ q.toRat * s.toRat := mul_nonneg q.toRat_nonneg s.toRat_nonneg
  rcases product_div_cases q s htpos with ⟨p, hpn, hdirect⟩ | ⟨-, hinf⟩
  swap
  · exact hinf
  have hlarge : (2 : ℚ) ^ 81 ≤ overflowBound :=
    (lt_overflowBound (pow_le_pow_right₀ one_le_two (by decide))).le
  have hone : 1 ≤ q.toRat * s.toRat := by
    have hquot : 2 ^ 81 ≤ q.toRat * s.toRat / t.toRat :=
      (hlarge.trans h).trans (mul_le_of_le_one_right (by positivity) keptPart_le_one)
    calc (1 : ℚ) = 2 ^ 81 * (1 / 2 ^ 81) := by norm_num
      _ ≤ q.toRat * s.toRat / t.toRat * t.toRat :=
        mul_le_mul hquot ht.1 (by positivity) (by positivity)
      _ = q.toRat * s.toRat := div_mul_cancel₀ _ htpos.ne'
  have hnormal : minNormal ≤ q.toRat * s.toRat :=
    minNormal_le_one_div.trans (le_trans (by norm_num) hone)
  have hover : overflowBound ≤ p.toRat / t.toRat := by
    have := ((hpn.within hnormal).div_right htpos.le).lower
    rw [pow_one] at this
    exact h.trans this
  rw [hdirect]
  exact Binary64.round_eq_infinite _ (div_nonneg p.toRat_nonneg htpos.le) hover

/-- Beyond the bound both formulas are infinite. -/
theorem convertQuantity_eq_infinite (hs : IsMultiplier e s) (ht : IsMultiplier f t)
    (h : (1 + 2 ^ (-50 : ℤ)) * 2 ^ 1024 ≤ q.toRat * 10 ^ (e - f)) :
    convertQuantity (.finite false q) (.finite false s) (.finite false t) = .infinite false := by
  have hq := q.toRat_nonneg
  have hbound : overflowBound ≤ q.toRat * 10 ^ (e - f) * keptPart ^ 3 :=
    calc overflowBound ≤ (1 + 2 ^ (-50 : ℤ)) * 2 ^ 1024 * keptPart ^ 3 :=
          overflowBound_le_of_kept (by norm_num [keptPart])
      _ ≤ q.toRat * 10 ^ (e - f) * keptPart ^ 3 :=
          mul_le_mul_of_nonneg_right h (pow_pos keptPart_pos 3).le
  rw [convertQuantity_eq_infinite_iff q s ht.pos]
  constructor
  · apply product_div_eq_infinite ht.size
    calc overflowBound ≤ q.toRat * 10 ^ (e - f) * keptPart ^ 2 * keptPart := by
          rw [mul_assoc, ← pow_succ]
          exact hbound
      _ ≤ q.toRat * s.toRat / t.toRat * keptPart :=
          mul_le_mul_of_nonneg_right (hs.quotient_within ht hq).lower keptPart_pos.le
  · obtain ⟨r, hr, -, hw⟩ := hs.exists_ratio ht
    rw [hr, Binary64.finite_mul_finite]
    exact Binary64.round_eq_infinite _ (mul_nonneg hq r.toRat_nonneg)
      (hbound.trans (hw _ hq).lower)

/-! ### Too small -/

theorem half_step_lt : (1 : ℚ) / 2 / stepsInOne < minNormal / 4 := by
  have hs := stepsInOne_cast_pos
  have h := minNormal_mul
  rw [div_lt_iff₀ hs]
  linarith

/-- A product that is not lost is at least half of the exact one, so that its quotient is not lost
either. -/
theorem ne_zero_of_product_div {z : Magnitude} (ht : 0 < t.toRat)
    (hlow : minNormal / 2 ≤ q.toRat * s.toRat / t.toRat)
    (hp : (.finite false q : Binary64) * .finite false s ≠ .zero)
    (hz : (.finite false q : Binary64) * .finite false s / .finite false t = .finite false z) :
    z ≠ .zero := by
  have hqs : 0 ≤ q.toRat * s.toRat := mul_nonneg q.toRat_nonneg s.toRat_nonneg
  rcases product_div_cases q s ht with ⟨p, hpn, hdirect⟩ | ⟨-, hinf⟩
  swap
  · rw [hinf] at hz
    cases hz
  have hpz : p ≠ .zero := by
    rintro rfl
    apply hp
    rw [Binary64.finite_mul_finite]
    exact Binary64.round_of_some _ ((round?_eq_some_iff hqs).mpr hpn)
  have htwo : q.toRat * s.toRat / t.toRat ≤ 2 * p.toRat / t.toRat :=
    div_le_div_of_nonneg_right (hpn.le_two_mul hpz) ht.le
  have hnear := Binary64.isNearest_of_round (div_nonneg p.toRat_nonneg ht.le) (hdirect ▸ hz)
  refine hnear.ne_zero (half_step_lt.trans_le ?_)
  rw [mul_div_assoc 2] at htwo
  linarith

theorem ne_zero_of_mul_ratio {z : Magnitude} (hs : IsMultiplier e s) (ht : IsMultiplier f t)
    (hlow : minNormal ≤ q.toRat * 10 ^ (e - f))
    (hz : (.finite false q : Binary64) * (.finite false s / .finite false t) = .finite false z) :
    z ≠ .zero := by
  obtain ⟨r, hr, -, hw⟩ := hs.exists_ratio ht
  rw [hr, Binary64.finite_mul_finite] at hz
  have hnear := Binary64.isNearest_of_round (mul_nonneg q.toRat_nonneg r.toRat_nonneg) hz
  have hhalf := (hw _ q.toRat_nonneg).half_le (minNormal_pos.le.trans hlow) (by decide)
  have hpos := minNormal_pos
  exact hnear.ne_zero (half_step_lt.trans_le (by linarith))

/-- A conversion whose exact result is in the normal range gives zero exactly where its product with
the source multiplier comes out as zero. -/
theorem convertQuantity_eq_zero_iff (hs : IsMultiplier e s) (ht : IsMultiplier f t)
    (hlow : minNormal ≤ q.toRat * 10 ^ (e - f))
    (hhigh : q.toRat * 10 ^ (e - f) ≤ (1 - 2 ^ (-50 : ℤ)) * 2 ^ 1024) :
    ∃ z, convertQuantity (.finite false q) (.finite false s) (.finite false t) = .finite false z ∧
      (z = .zero ↔ (.finite false q : Binary64) * .finite false s = .zero) := by
  obtain ⟨z, hz⟩ := exists_convertQuantity q s ht.pos (exists_mul_ratio hs ht hhigh)
  have hquot := (hs.quotient_within ht q.toRat_nonneg).half_le (minNormal_pos.le.trans hlow)
    (by decide)
  refine ⟨z, hz, ?_, ?_⟩
  · rintro rfl
    by_contra hp
    rcases (hasPlusSign_product_div q s ht.pos).cases with ⟨y, hy⟩ | hinf
    · rw [convertQuantity_eq_of_finite (by rw [hy]; rfl), hy] at hz
      exact ne_zero_of_product_div ht.pos (by linarith) hp hy (Binary64.finite.inj hz).2
    · rw [convertQuantity_eq_of_infinite hinf] at hz
      exact ne_zero_of_mul_ratio hs ht hlow hz rfl
  · intro hp
    have hzero : (.finite false q : Binary64) * .finite false s / .finite false t = .zero := by
      rw [hp, Binary64.zero, Binary64.finite_div_finite _ _ _ ht.pos, toRat_zero, zero_div,
        Binary64.round_zero]
      rfl
    rw [convertQuantity_eq_of_finite (by rw [hzero]; rfl), hzero] at hz
    exact (Binary64.finite.inj hz).2.symm

/-- A product of at least one step is not lost. -/
theorem product_ne_zero (hs : IsMultiplier e s) (h : 2 ^ (-1074 : ℤ) ≤ q.toRat * 10 ^ e) :
    (.finite false q : Binary64) * .finite false s ≠ .zero := by
  intro hp
  rw [Binary64.finite_mul_finite] at hp
  have hnear := Binary64.isNearest_of_round (mul_nonneg q.toRat_nonneg s.toRat_nonneg) hp
  refine hnear.ne_zero ?_ rfl
  have hlower := (hs.product_within q.toRat_nonneg).lower
  have hkept : (1 : ℚ) / 2 < keptPart ^ 1 := by norm_num [keptPart]
  have htwo : (2 : ℚ) ^ (-1074 : ℤ) = 2 ^ (-1075 : ℤ) * 2 := zpow_add_one₀ two_ne_zero (-1075)
  have hpos : (0 : ℚ) < 2 ^ (-1075 : ℤ) := by positivity
  rw [half_step_eq]
  rw [htwo] at h
  generalize (2 : ℚ) ^ (-1075 : ℤ) = a at *
  calc a = a * 2 * (1 / 2) := by ring
    _ < a * 2 * keptPart ^ 1 := mul_lt_mul_of_pos_left hkept (by linarith)
    _ ≤ q.toRat * 10 ^ e * keptPart ^ 1 := mul_le_mul_of_nonneg_right h (by linarith)
    _ ≤ q.toRat * s.toRat := hlower

/-- A product of a quarter of a step is lost. -/
theorem product_eq_zero (hs : IsMultiplier e s) (h : q.toRat * 10 ^ e ≤ 2 ^ (-1076 : ℤ)) :
    (.finite false q : Binary64) * .finite false s = .zero := by
  have hqs : 0 ≤ q.toRat * s.toRat := mul_nonneg q.toRat_nonneg s.toRat_nonneg
  have hupper := (hs.product_within q.toRat_nonneg).upper
  have hkept : (1 : ℚ) / 2 < keptPart ^ 1 := by norm_num [keptPart]
  have htwo : (2 : ℚ) ^ (-1075 : ℤ) = 2 ^ (-1076 : ℤ) * 2 := zpow_add_one₀ two_ne_zero (-1076)
  have hlt : q.toRat * s.toRat < 1 / 2 / stepsInOne := by
    rw [half_step_eq, htwo]
    have hpos : (0 : ℚ) < 2 ^ (-1076 : ℤ) := by positivity
    generalize (2 : ℚ) ^ (-1076 : ℤ) = a at *
    nlinarith
  rw [Binary64.finite_mul_finite, Binary64.round_of_some _ (round?_eq_zero hqs hlt.le)]
  rfl

/-! ### Conversions at the ends of the range -/

namespace Query

variable {query : Query} {u v : PrefixedUnit}

/-- A query between units of one root has a result, or it is refused as too large because both
formulas are infinite. -/
theorem convert_ok_or_overflow (hu : (PrefixedUnit.resolve query.sourceUnit).result = .ok u)
    (hv : (PrefixedUnit.resolve query.targetUnit).result = .ok v) (hroot : u.root = v.root)
    (hq : query.Valid) :
    (∃ r, query.convert.result = .ok r) ∨
      query.convert.result = .error (.failure
        ⟨.conversionOverflow query.quantityText query.sourceUnit query.targetUnit, []⟩) ∧
      query.quantity * u.multiplier / v.multiplier = .infinite false ∧
      query.quantity * (u.multiplier / v.multiplier) = .infinite false := by
  rcases hq.quantity_cases with ⟨x, hx⟩ | hz
  swap
  · exact Or.inl ⟨_, convert_of_signedZero hu hv hroot hz⟩
  rw [hx]
  rcases PrefixedUnit.convertQuantity_cases hu hv x with ⟨z, hz⟩ | ⟨hinf, hdirect, hratio⟩
  · exact Or.inl ⟨_, convert_of_finite hu hv hroot hq (hx ▸ hz)⟩
  · exact Or.inr ⟨convert_of_infinite hu hv hroot (by rw [hx, hinf]; rfl), hdirect, hratio⟩

/-- Too large means that the result is: a quantity whose exact result is below the range of the
doubles by one part in `2 ^ 50` is converted, and one whose result is beyond it by as much is
refused. In between it is refused only if the formula that needs no product is infinite too, which
it never is between a unit and itself. -/
theorem convert_fits (hu : (PrefixedUnit.resolve query.sourceUnit).result = .ok u)
    (hv : (PrefixedUnit.resolve query.targetUnit).result = .ok v) (hroot : u.root = v.root)
    (hq : query.Valid) {negative : Bool} {q : Magnitude}
    (hx : query.quantity = .finite negative q) :
    (q.toRat * 10 ^ (u.exponent - v.exponent) ≤ (1 - 2 ^ (-50 : ℤ)) * 2 ^ 1024 →
      ∃ r, query.convert.result = .ok r) ∧
    ((1 + 2 ^ (-50 : ℤ)) * 2 ^ 1024 ≤ q.toRat * 10 ^ (u.exponent - v.exponent) →
      query.convert.result = .error (.failure
        ⟨.conversionOverflow query.quantityText query.sourceUnit query.targetUnit, []⟩)) ∧
    (∀ fault, query.convert.result = .error fault →
      query.quantity * u.multiplier / v.multiplier = .infinite false ∧
        query.quantity * (u.multiplier / v.multiplier) = .infinite false) ∧
    (u.exponent = v.exponent → ∃ r, query.convert.result = .ok r) := by
  rcases hq.quantity_cases with ⟨x, hplus⟩ | hzero
  swap
  · -- The negative zero is converted to itself.
    have hok : ∃ r, query.convert.result = .ok r := ⟨_, convert_of_signedZero hu hv hroot hzero⟩
    obtain ⟨-, rfl⟩ := Binary64.finite.inj (hx.symm.trans hzero)
    refine ⟨fun _ => hok, fun h => absurd h ?_, fun fault hf => ?_, fun _ => hok⟩
    · rw [toRat_zero, zero_mul, not_le]
      positivity
    · obtain ⟨r, hr⟩ := hok
      rw [hr] at hf
      cases hf
  obtain ⟨rfl, rfl⟩ := Binary64.finite.inj (hx.symm.trans hplus)
  obtain ⟨s, hs, hsm⟩ := PrefixedUnit.isMultiplier_of_resolve hu
  obtain ⟨t, ht, htm⟩ := PrefixedUnit.isMultiplier_of_resolve hv
  -- It is enough for a result that the formula by the ratio is finite.
  have hok : (∃ z, (.finite false q : Binary64) * (.finite false s / .finite false t) =
      .finite false z) → ∃ r, query.convert.result = .ok r := by
    intro hratio
    obtain ⟨z, hz⟩ := exists_convertQuantity q s htm.pos hratio
    exact ⟨_, convert_of_finite hu hv hroot hq (by rw [hx, hs, ht, hz])⟩
  refine ⟨fun h => hok (exists_mul_ratio hsm htm h), ?_, ?_, ?_⟩
  · intro h
    have hinf := convertQuantity_eq_infinite hsm htm h
    exact convert_of_infinite hu hv hroot (by rw [hx, hs, ht, hinf]; rfl)
  · intro fault hf
    rcases convert_ok_or_overflow hu hv hroot hq with ⟨r, hr⟩ | ⟨-, hboth⟩
    · rw [hr] at hf
      cases hf
    · exact hboth
  · intro heq
    have hst : s = t := hsm.nearest.unique (heq ▸ htm.nearest)
    exact hok ⟨q, hst ▸ mul_ratio_self q hsm.pos⟩

/-- A quantity near the top of the range is converted to its own unit although its product is beyond
the largest double, and refused where its result is. -/
theorem convert_fits_yottametres : ∃ q : Magnitude, q.toRat = 2 ^ (1023 : ℤ) ∧
    overflowBound ≤ q.toRat * 10 ^ (24 : ℤ) ∧
    (∃ r, (Query.convert ⟨.finite false q, "q", "Ym", "Ym"⟩).result = .ok r) ∧
    (Query.convert ⟨.finite false q, "q", "Ym", "ym"⟩).result =
      .error (.failure ⟨.conversionOverflow "q" "Ym" "ym", []⟩) := by
  obtain ⟨q, hq⟩ := exists_toRat_eq_two_zpow (n := 1023) (by decide) (by decide)
  have hyotta : (PrefixedUnit.resolve "Ym").result = .ok (.ofParts ⟨"Y", "yotta", 24⟩ .meter) :=
    PrefixedUnit.resolve_of_spells (.intro (by decide) .meter)
  have hyocto : (PrefixedUnit.resolve "ym").result = .ok (.ofParts ⟨"y", "yocto", -24⟩ .meter) :=
    PrefixedUnit.resolve_of_spells (.intro (by decide) .meter)
  have htop : (2 : ℚ) ^ 1024 = 2 ^ (1023 : ℤ) * 2 := by
    rw [← zpow_add_one₀ two_ne_zero, ← zpow_natCast]
    rfl
  have hpos : (0 : ℚ) < 2 ^ (1023 : ℤ) := by positivity
  refine ⟨q, hq, ?_, ?_, ?_⟩
  · rw [hq]
    calc overflowBound ≤ 2 ^ 1024 := sub_le_self _ (by positivity)
      _ ≤ 2 ^ (1023 : ℤ) * 10 ^ (24 : ℤ) := by
        rw [htop]
        exact mul_le_mul_of_nonneg_left (by norm_num) hpos.le
  · exact (@convert_fits ⟨.finite false q, "q", "Ym", "Ym"⟩ _ _ hyotta hyotta rfl ⟨rfl, rfl⟩
      _ _ rfl).2.2.2 rfl
  · refine (@convert_fits ⟨.finite false q, "q", "Ym", "ym"⟩ _ _ hyotta hyocto rfl ⟨rfl, rfl⟩
      _ _ rfl).2.1 ?_
    rw [hq, htop, mul_left_comm]
    exact mul_le_mul_of_nonneg_left (by norm_num [PrefixedUnit.ofParts]) hpos.le

/-- Where the exact result is in the normal range, a quantity above zero is converted, but the
result is zero if and only if the product with the source multiplier comes out as zero. A product of
at least the least positive double is never lost, and one of a quarter of it always is. -/
theorem convert_eq_zero_iff (hu : (PrefixedUnit.resolve query.sourceUnit).result = .ok u)
    (hv : (PrefixedUnit.resolve query.targetUnit).result = .ok v) (hroot : u.root = v.root)
    {q : Magnitude} (hx : query.quantity = .finite false q)
    (hlow : 2 ^ (-1022 : ℤ) ≤ q.toRat * 10 ^ (u.exponent - v.exponent))
    (hhigh : q.toRat * 10 ^ (u.exponent - v.exponent) ≤ 2 ^ 1023) :
    ∃ r, query.convert.result = .ok ⟨.finite false r, query.targetUnit, query⟩ ∧
      (r = .zero ↔ query.quantity * u.multiplier = .zero) ∧
      (2 ^ (-1074 : ℤ) ≤ q.toRat * 10 ^ u.exponent → 0 < r.toRat) ∧
      (q.toRat * 10 ^ u.exponent ≤ 2 ^ (-1076 : ℤ) → r = .zero) := by
  obtain ⟨s, hs, hsm⟩ := PrefixedUnit.isMultiplier_of_resolve hu
  obtain ⟨t, ht, htm⟩ := PrefixedUnit.isMultiplier_of_resolve hv
  have hfits : q.toRat * 10 ^ (u.exponent - v.exponent) ≤ (1 - 2 ^ (-50 : ℤ)) * 2 ^ 1024 := by
    have htop : (2 : ℚ) ^ 1024 = 2 * 2 ^ 1023 := pow_succ' 2 1023
    refine hhigh.trans ?_
    rw [htop, ← mul_assoc]
    exact le_mul_of_one_le_left (by positivity) (by norm_num)
  obtain ⟨r, hr, hzero⟩ := convertQuantity_eq_zero_iff hsm htm hlow hfits
  have hvalid : query.Valid := ⟨by rw [hx]; rfl, by rw [hx]; rfl⟩
  rw [hx, hs]
  refine ⟨r, convert_of_finite hu hv hroot hvalid (by rw [hx, hs, ht, hr]), hzero, ?_, ?_⟩
  · intro h
    have hne : r ≠ .zero := fun h0 => product_ne_zero hsm h (hzero.mp h0)
    exact toRat_pos_iff.mpr fun h0 => hne (eq_zero_of_significand h0)
  · exact fun h => hzero.mpr (product_eq_zero hsm h)

/-- A product below the normal range but of more than one step is not lost. -/
theorem convert_eq_zero_iff_yoctometres : ∃ q r : Magnitude, q.toRat = 2 ^ (-990 : ℤ) ∧
    q.toRat * 10 ^ (-24 : ℤ) < minNormal ∧
    (Query.convert ⟨.finite false q, "q", "ym", "zm"⟩).result =
      .ok ⟨.finite false r, "zm", ⟨.finite false q, "q", "ym", "zm"⟩⟩ ∧ 0 < r.toRat := by
  obtain ⟨q, hq⟩ := exists_toRat_eq_two_zpow (n := -990) (by decide) (by decide)
  have hyocto : (PrefixedUnit.resolve "ym").result = .ok (.ofParts ⟨"y", "yocto", -24⟩ .meter) :=
    PrefixedUnit.resolve_of_spells (.intro (by decide) .meter)
  have hzepto : (PrefixedUnit.resolve "zm").result = .ok (.ofParts ⟨"z", "zepto", -21⟩ .meter) :=
    PrefixedUnit.resolve_of_spells (.intro (by decide) .meter)
  have hpos : (0 : ℚ) < 2 ^ (-990 : ℤ) := by positivity
  have hsplit : ∀ n : ℤ, (2 : ℚ) ^ (-990 + n) = 2 ^ (-990 : ℤ) * 2 ^ n := zpow_add₀ two_ne_zero _
  have hthousandth : (2 : ℚ) ^ (-32 : ℤ) ≤ 10 ^ (-3 : ℤ) ∧ (10 : ℚ) ^ (-3 : ℤ) ≤ 1 := by norm_num
  have hyocto' : (2 : ℚ) ^ (-84 : ℤ) ≤ 10 ^ (-24 : ℤ) ∧
      (10 : ℚ) ^ (-24 : ℤ) < 2 ^ (-32 : ℤ) := by norm_num
  have hlow : 2 ^ (-1022 : ℤ) ≤ q.toRat * 10 ^ (-3 : ℤ) := by
    rw [hq]
    exact (hsplit (-32)).trans_le (mul_le_mul_of_nonneg_left hthousandth.1 hpos.le)
  have hhigh : q.toRat * 10 ^ (-3 : ℤ) ≤ 2 ^ 1023 := by
    rw [hq]
    calc (2 : ℚ) ^ (-990 : ℤ) * 10 ^ (-3 : ℤ) ≤ 2 ^ (-990 : ℤ) * 1 :=
          mul_le_mul_of_nonneg_left hthousandth.2 hpos.le
      _ ≤ 1 := by rw [mul_one]; exact zpow_le_one_of_nonpos₀ one_le_two (by decide)
      _ ≤ 2 ^ 1023 := one_le_pow₀ one_le_two
  have hprod : 2 ^ (-1074 : ℤ) ≤ q.toRat * 10 ^ (-24 : ℤ) := by
    rw [hq]
    exact (hsplit (-84)).trans_le (mul_le_mul_of_nonneg_left hyocto'.1 hpos.le)
  obtain ⟨r, hr, -, hkept, -⟩ := @convert_eq_zero_iff ⟨.finite false q, "q", "ym", "zm"⟩ _ _
    hyocto hzepto rfl _ rfl hlow hhigh
  refine ⟨q, r, hq, ?_, hr, hkept hprod⟩
  rw [hq, minNormal]
  exact (mul_lt_mul_of_pos_left hyocto'.2 hpos).trans_eq (hsplit (-32)).symm

end Query

/-- A quantity in the normal range that is lost on the way to its own unit. -/
theorem convertLine_vanishes_yoctometres :
    let q : Magnitude := ⟨0x156e1fc2f8f359, 25, by decide, by decide, Or.inr (by decide)⟩
    2 ^ (-1022 : ℤ) ≤ q.toRat ∧ q.toRat ≤ 2 ^ 1023 ∧
      (convertLine "1e-300 ym = ym").result =
        .ok ⟨.zero, "ym", ⟨.finite false q, "1e-300", "ym", "ym"⟩⟩ := by
  intro q
  have hs := stepsInOne_cast_pos
  have hlow : 2 ^ (52 : ℕ) ≤ q.steps := by decide
  have hhigh : q.steps ≤ 2 ^ (78 : ℕ) := by decide
  refine ⟨?_, ?_, Traced.result_of_toOption (by decide +kernel)⟩
  · rw [toRat, le_div_iff₀ hs]
    calc 2 ^ (-1022 : ℤ) * (stepsInOne : ℚ) = 2 ^ 52 := minNormal_mul
      _ ≤ q.steps := by exact_mod_cast hlow
  · calc q.toRat ≤ q.steps := div_le_self (Nat.cast_nonneg _) (by exact_mod_cast stepsInOne_pos)
      _ ≤ 2 ^ 78 := by exact_mod_cast hhigh
      _ ≤ 2 ^ 1023 := pow_le_pow_right₀ one_le_two (by decide)

end SIUnits
