import SIUnits.Proofs.Conversion.Amount
import SIUnits.Proofs.Conversion.Switch

/-! A larger amount has a larger result, also where the two come from different formulas
(`Amount.convert_mono`). -/
namespace SIUnits

open Binary64

variable {a b : String}

namespace PrefixedUnit

variable {u v : PrefixedUnit} (ha : (resolve a).result = .ok u) (hb : (resolve b).result = .ok v)
include ha hb

theorem zero_le_convertQuantity {y : Binary64} (h0 : zero ≤ y) (hy : y.isFinite = true) :
    zero ≤ convertQuantity y u.multiplier v.multiplier := by
  obtain ⟨s, hs, -⟩ := isMultiplier_of_resolve ha
  obtain ⟨t, ht, htm⟩ := isMultiplier_of_resolve hb
  match y with
  | .infinite _ | .nan => cases hy
  | .finite n q =>
    rcases plus_or_zero_of_zero_le h0 with rfl | rfl
    · rw [hs, ht]
      exact (hasPlusSign_convertQuantity q s htm.pos).zero_le
    · rw [convertQuantity_signedZero ha hb]
      exact h0

theorem convertQuantity_mono {x y : Binary64} (h0 : zero ≤ x) (h : x ≤ y)
    (hy : y.isFinite = true) :
    convertQuantity x u.multiplier v.multiplier ≤ convertQuantity y u.multiplier v.multiplier := by
  match y with
  | .infinite _ | .nan => cases hy
  | .finite m q' =>
    obtain ⟨n, q, rfl⟩ := exists_of_zero_le_of_le h0 h
    by_cases hq : q = .zero
    · -- A zero is converted to itself, and no result is below it.
      subst hq
      rw [convertQuantity_signedZero ha hb]
      exact signedZero_le_of_zero_le n (zero_le_convertQuantity ha hb (le_trans h0 h) rfl)
    · obtain rfl := (plus_or_zero_of_zero_le h0).resolve_right hq
      obtain rfl := plus_of_finite_le hq h
      obtain ⟨p, root, hp, rfl⟩ := resolve_eq_ok_iff.mp ha
      obtain ⟨p', root', hp', rfl⟩ := resolve_eq_ok_iff.mp hb
      obtain ⟨s, hs, hsm⟩ := isMultiplier_of_resolve ha
      obtain ⟨t, ht, htm⟩ := isMultiplier_of_resolve hb
      obtain ⟨r, hr, -, -⟩ := hsm.exists_ratio htm
      have hk := SIPrefix.keepsOrder hp.prefix_mem hp'.prefix_mem hs ht hsm.pos htm.pos hr
      rw [hs, ht]
      exact hk.convertQuantity_mono hsm.pos htm.pos hr (finite_le_finite.mp h)

end PrefixedUnit

theorem Query.convert_le_convert {x y : Binary64} {n n' : String} (hy : Valid ⟨y, n', a, b⟩)
    (h0 : zero ≤ x) (hxy : x ≤ y) {r' : Conversion}
    (h : (convert ⟨y, n', a, b⟩).result = .ok r') :
    ∃ r, (convert ⟨x, n, a, b⟩).result = .ok r ∧ r.quantity ≤ r'.quantity := by
  obtain ⟨u, v, hu, hv, hroot, hr', hfinite'⟩ := exists_of_convert hy h
  have hmono := PrefixedUnit.convertQuantity_mono hu hv h0 hxy hy.finite
  rw [hr'] at hmono
  have hfinite := isFinite_of_zero_le_of_le h0 hxy hy.finite
  have hpos := PrefixedUnit.zero_le_convertQuantity hu hv h0 hfinite
  have hx : Valid ⟨x, n, a, b⟩ := ⟨hfinite, isBelowZero_of_zero_le h0⟩
  exact ⟨_, convert_of_valid (q := ⟨x, n, a, b⟩) hu hv hroot hx rfl
    (isFinite_of_zero_le_of_le hpos hmono hfinite') (isBelowZero_of_zero_le hpos), hmono⟩

namespace Amount

/-- Only finite amounts are converted. -/
theorem isFinite_of_convert {amount : Amount} {z : Binary64}
    (h : (amount.convert a b).result = .ok z) : amount.toBinary64.isFinite = true := by
  by_contra hf
  cases amount with
  | whole n => simp [convert, hf] at h
  | number x => simp [convert, hf] at h

/-- If an amount is converted, so is every smaller one that is not below zero, and the result is not
larger. -/
theorem convert_mono {x y : Amount} (h0 : zero ≤ x.toBinary64)
    (hxy : x.toBinary64 ≤ y.toBinary64) {z : Binary64} (h : (y.convert a b).result = .ok z) :
    ∃ w, (x.convert a b).result = .ok w ∧ w ≤ z := by
  have hfinite := isFinite_of_convert h
  have hyb := isBelowZero_of_zero_le (le_trans h0 hxy)
  rw [convert_of_notBelowZero hfinite hyb] at h
  cases hr : (Query.convert ⟨y.toBinary64, y.toBinary64.text, a, b⟩).result with
  | error fault =>
    rw [hr] at h
    cases h
  | ok r' =>
    rw [hr] at h
    obtain rfl := Except.ok.inj h
    obtain ⟨r, hok, hle⟩ := Query.convert_le_convert ⟨hfinite, hyb⟩ h0 hxy hr
    refine ⟨r.quantity, ?_, hle⟩
    rw [convert_of_notBelowZero (isFinite_of_zero_le_of_le h0 hxy hfinite)
      (isBelowZero_of_zero_le h0), hok]
    rfl

/-- Two neighbouring doubles whose results come from the two formulas. -/
theorem convert_mono_yottametres :
    let x : Magnitude := ⟨0x1357c299a88ea7, 1966, by decide, by decide, Or.inr (by decide)⟩
    let y : Magnitude := ⟨0x1357c299a88ea8, 1966, by decide, by decide, Or.inr (by decide)⟩
    let z : Magnitude := ⟨0x12e3b40a0e9b50, 1976, by decide, by decide, Or.inr (by decide)⟩
    (.finite false x * powerOfTen 24).isFinite = true ∧
      .finite false y * powerOfTen 24 = .infinite false ∧
      ((number (.finite false y)).convert "Ym" "Zm").result = .ok (.finite false z) ∧
      ∃ w, ((number (.finite false x)).convert "Ym" "Zm").result = .ok w ∧
        w ≤ .finite false z := by
  intro x y z
  have hok : ((number (.finite false y)).convert "Ym" "Zm").result = .ok (.finite false z) :=
    Traced.result_of_toOption (by decide +kernel)
  have hle : (.finite false x : Binary64) ≤ .finite false y := by decide +kernel
  have h0 : zero ≤ (.finite false x : Binary64) := by decide +kernel
  exact ⟨by decide +kernel, by decide +kernel, hok,
    convert_mono (x := number (.finite false x)) (y := number (.finite false y)) h0 hle hok⟩

end Amount

end SIUnits
