import SIUnits.Proofs.Binary64.Signed
import SIUnits.Proofs.Conversion.Steps

/-! Conversions with one rounding. The multipliers from one to `10 ^ 21` are exact, so where the
product is exact too, only the quotient is rounded, and the result is the double nearest to the
exact one (`Query.convert_rounds_once`). -/
namespace SIUnits

open Magnitude

variable {e f : ℤ} {q s t p : Magnitude}

/-- The multipliers that doubles hold exactly. -/
theorem IsMultiplier.toRat_eq (h : IsMultiplier e s) (hl : 0 ≤ e) (hh : e ≤ 22) :
    s.toRat = 10 ^ e := by
  obtain ⟨k, rfl⟩ := Int.eq_ofNat_of_zero_le hl
  obtain ⟨x, hx⟩ := exists_toRat_eq_ten_pow (e := k) (by omega)
  rw [← zpow_natCast] at hx
  rw [h.nearest.eq_of_toRat hx, hx]

/-- A whole number of 53 bits is nearest to itself only. -/
theorem Magnitude.IsNearest.toRat_eq_natCast {k : ℕ} (h : q.IsNearest k) (hk : k ≤ 2 ^ 53) :
    q.toRat = k := by
  obtain ⟨x, hx⟩ := exists_toRat_eq_natCast hk
  rw [h.eq_of_toRat hx, hx]

/-- The direct formula rounds only the quotient, which is not too large. -/
theorem convertQuantity_of_exact_product (hs : s.toRat = 10 ^ e) (ht : t.toRat = 10 ^ f)
    (hf : 0 ≤ f) (hp : p.toRat = q.toRat * 10 ^ e) :
    ∃ r, convertQuantity (.finite false q) (.finite false s) (.finite false t) = .finite false r ∧
      r.IsNearest (q.toRat * 10 ^ (e - f)) := by
  have hone : 1 ≤ t.toRat := by
    rw [ht]
    exact one_le_zpow₀ (by norm_num) hf
  have hpos : 0 < t.toRat := zero_lt_one.trans_le hone
  have hvalue : p.toRat / t.toRat = q.toRat * 10 ^ (e - f) := by
    rw [hp, ht, zpow_sub₀ (by norm_num), mul_div_assoc]
  have hlt : p.toRat / t.toRat < overflowBound :=
    (div_le_self p.toRat_nonneg hone).trans_lt p.isNearest_toRat.lt_bound
  obtain ⟨r, hr, hnear⟩ := Binary64.round_eq_finite false (div_nonneg p.toRat_nonneg hpos.le) hlt
  have hproduct : (.finite false q : Binary64) * .finite false s = .finite false p := by
    rw [Binary64.finite_mul_finite, hs, ← hp]
    exact Binary64.round_toRat false p
  have hdirect : (.finite false q : Binary64) * .finite false s / .finite false t =
      .finite false r := by
    rw [hproduct, Binary64.finite_div_finite _ _ _ hpos]
    exact hr
  refine ⟨r, ?_, hvalue ▸ hnear⟩
  rw [convertQuantity_eq_of_finite (by rw [hdirect]; rfl), hdirect]

namespace Query

section ExactProduct

variable {query : Query} {u v : PrefixedUnit} {n : Bool}
  (hu : (PrefixedUnit.resolve query.sourceUnit).result = .ok u)
  (hv : (PrefixedUnit.resolve query.targetUnit).result = .ok v) (hroot : u.root = v.root)
  (hul : 0 ≤ u.exponent) (huh : u.exponent ≤ 21) (hvl : 0 ≤ v.exponent) (hvh : v.exponent ≤ 21)
  (hvalid : query.Valid) (hq : query.quantity = .finite n q)
include hu hv hroot hul huh hvl hvh hvalid hq

theorem convert_of_exact_product (hp : p.toRat = q.toRat * 10 ^ u.exponent) :
    ∃ r, query.convert.result = .ok ⟨.finite n r, query.targetUnit, query⟩ ∧
      r.IsNearest (q.toRat * 10 ^ (u.exponent - v.exponent)) ∧
      Binary64.IsNearest (q.toRat * 10 ^ (u.exponent - v.exponent)) n r := by
  obtain ⟨s, hs, hsm⟩ := PrefixedUnit.isMultiplier_of_resolve hu
  obtain ⟨t, ht, htm⟩ := PrefixedUnit.isMultiplier_of_resolve hv
  have hnonneg : 0 ≤ q.toRat * 10 ^ (u.exponent - v.exponent) :=
    mul_nonneg q.toRat_nonneg (by positivity)
  cases n with
  | false =>
    obtain ⟨r, hr, hnear⟩ := convertQuantity_of_exact_product (hsm.toRat_eq hul (by omega))
      (htm.toRat_eq hvl (by omega)) hvl hp
    have hconvert := convert_of_finite hu hv hroot hvalid (by rw [hq, hs, ht, hr])
    exact ⟨r, hconvert, hnear, Binary64.IsNearest.of_nonneg hnear hnonneg⟩
  | true =>
    -- A number with a minus sign that is not below zero is the negative zero, and stays it.
    have hzero : q = .zero := by
      by_contra hne
      have hbelow := Binary64.isBelowZero_finite_iff.mpr ⟨rfl, hne⟩
      rw [← hq, hvalid.notBelowZero] at hbelow
      cases hbelow
    subst hzero
    have hnear : Magnitude.zero.IsNearest (0 : ℚ) := toRat_zero ▸ isNearest_toRat .zero
    have hsigned := (Binary64.IsNearest.of_nonneg hnear le_rfl).neg
    rw [neg_zero] at hsigned
    rw [toRat_zero, zero_mul]
    exact ⟨.zero, convert_of_signedZero hu hv hroot hq, hnear, hsigned⟩

/-- A whole number has an exact product if that has 53 bits, and an exact result if the target unit
is the smaller one. -/
theorem convert_of_natCast {m : ℕ} (hm : q.toRat = m)
    (hle : (m : ℚ) * 10 ^ u.exponent ≤ 2 ^ 53) (hvu : v.exponent ≤ u.exponent) :
    ∃ r, query.convert.result = .ok ⟨.finite n r, query.targetUnit, query⟩ ∧
      r.toRat = (m * 10 ^ (u.exponent - v.exponent).toNat : ℕ) := by
  obtain ⟨j, hj⟩ := Int.eq_ofNat_of_zero_le hul
  obtain ⟨k, hk⟩ := Int.eq_ofNat_of_zero_le (sub_nonneg.mpr hvu)
  have hle' : m * 10 ^ j ≤ 2 ^ 53 := by
    rw [hj, zpow_natCast] at hle
    exact_mod_cast hle
  obtain ⟨p, hp⟩ := exists_toRat_eq_natCast hle'
  have hproduct : p.toRat = q.toRat * 10 ^ u.exponent := by
    rw [hp, hm, hj, zpow_natCast]
    push_cast
    rfl
  obtain ⟨r, hr, hnear, -⟩ :=
    convert_of_exact_product hu hv hroot hul huh hvl hvh hvalid hq hproduct
  have hvalue : q.toRat * 10 ^ (u.exponent - v.exponent) = (m * 10 ^ k : ℕ) := by
    rw [hm, hk, zpow_natCast]
    push_cast
    rfl
  have hkj : m * 10 ^ k ≤ 2 ^ 53 :=
    (Nat.mul_le_mul_left m (Nat.pow_le_pow_right (by decide) (by omega))).trans hle'
  rw [hvalue] at hnear
  refine ⟨r, hr, ?_⟩
  rw [hnear.toRat_eq_natCast hkj, hk, Int.toNat_natCast]

end ExactProduct

/-- Between units whose multipliers are from one to `10 ^ 21`, a quantity whose product with the
source multiplier is a double is converted with a single rounding: the result is the double nearest
to the exact one, which it is exactly if that is a double. So a whole number stays a whole number
without an error if the product has 53 bits and the target unit is not the larger one. -/
theorem convert_rounds_once {query : Query} {u v : PrefixedUnit}
    (hu : (PrefixedUnit.resolve query.sourceUnit).result = .ok u)
    (hv : (PrefixedUnit.resolve query.targetUnit).result = .ok v) (hroot : u.root = v.root)
    (hul : 0 ≤ u.exponent) (huh : u.exponent ≤ 21) (hvl : 0 ≤ v.exponent) (hvh : v.exponent ≤ 21)
    (hvalid : query.Valid) {n : Bool} {q : Magnitude} (hq : query.quantity = .finite n q) :
    (∀ p : Magnitude, p.toRat = q.toRat * 10 ^ u.exponent →
      ∃ r, query.convert.result = .ok ⟨.finite n r, query.targetUnit, query⟩ ∧
        Binary64.IsNearest (q.toRat * 10 ^ (u.exponent - v.exponent)) n r ∧
        ∀ y : Magnitude, y.toRat = q.toRat * 10 ^ (u.exponent - v.exponent) → r = y) ∧
    ∀ m : ℕ, q.toRat = m → (m : ℚ) * 10 ^ u.exponent ≤ 2 ^ 53 → v.exponent ≤ u.exponent →
      ∃ r, query.convert.result = .ok ⟨.finite n r, query.targetUnit, query⟩ ∧
        r.toRat = (m * 10 ^ (u.exponent - v.exponent).toNat : ℕ) := by
  refine ⟨fun p hp => ?_, fun m hm hle hvu => ?_⟩
  · obtain ⟨r, hr, hnear, hsigned⟩ :=
      convert_of_exact_product hu hv hroot hul huh hvl hvh hvalid hq hp
    exact ⟨r, hr, hsigned, fun y hy => hnear.eq_of_toRat hy⟩
  · exact convert_of_natCast hu hv hroot hul huh hvl hvh hvalid hq hm hle hvu

/-- Half a gigametre in zettametres is rounded once, and thousands of terametres in megametres not
at all. -/
theorem convert_rounds_once_metres :
    (∃ q r : Magnitude, q.toRat = 2 ^ (-1 : ℤ) ∧
      (convert ⟨.finite false q, "0.5", "Gm", "Zm"⟩).result =
        .ok ⟨.finite false r, "Zm", ⟨.finite false q, "0.5", "Gm", "Zm"⟩⟩ ∧
      Binary64.IsNearest (q.toRat * 10 ^ (9 - 21 : ℤ)) false r) ∧
    ∃ q r : Magnitude, q.toRat = (9007 : ℕ) ∧
      (convert ⟨.finite false q, "9007", "Tm", "Mm"⟩).result =
        .ok ⟨.finite false r, "Mm", ⟨.finite false q, "9007", "Tm", "Mm"⟩⟩ ∧
      r.toRat = (9007000000 : ℕ) := by
  have hgiga : (PrefixedUnit.resolve "Gm").result = .ok (.ofParts ⟨"G", "giga", 9⟩ .meter) :=
    PrefixedUnit.resolve_of_spells (.intro (by decide) .meter)
  have hzetta : (PrefixedUnit.resolve "Zm").result = .ok (.ofParts ⟨"Z", "zetta", 21⟩ .meter) :=
    PrefixedUnit.resolve_of_spells (.intro (by decide) .meter)
  have htera : (PrefixedUnit.resolve "Tm").result = .ok (.ofParts ⟨"T", "tera", 12⟩ .meter) :=
    PrefixedUnit.resolve_of_spells (.intro (by decide) .meter)
  have hmega : (PrefixedUnit.resolve "Mm").result = .ok (.ofParts ⟨"M", "mega", 6⟩ .meter) :=
    PrefixedUnit.resolve_of_spells (.intro (by decide) .meter)
  constructor
  · obtain ⟨q, hq⟩ := exists_toRat_eq_two_zpow (n := -1) (by decide) (by decide)
    obtain ⟨p, hp⟩ := exists_toRat_eq_natCast (n := 500000000) (by decide)
    have hproduct : p.toRat = q.toRat * 10 ^ (9 : ℤ) := by
      rw [hp, hq]
      norm_num
    obtain ⟨r, hr, hnear, -⟩ := (@convert_rounds_once ⟨.finite false q, "0.5", "Gm", "Zm"⟩ _ _
      hgiga hzetta rfl (by decide) (by decide) (by decide) (by decide)
      ⟨rfl, rfl⟩ _ _ rfl).1 p hproduct
    exact ⟨q, r, hq, hr, hnear⟩
  · obtain ⟨q, hq⟩ := exists_toRat_eq_natCast (n := 9007) (by decide)
    obtain ⟨r, hr, hvalue⟩ := (@convert_rounds_once ⟨.finite false q, "9007", "Tm", "Mm"⟩ _ _
      htera hmega rfl (by decide) (by decide) (by decide) (by decide)
      ⟨rfl, rfl⟩ _ _ rfl).2 9007 hq (by norm_num [PrefixedUnit.ofParts])
      (by decide)
    exact ⟨q, r, hq, hr, hvalue⟩

end Query

end SIUnits
