import SIUnits.Decimal.Lemmas
import SIUnits.Decimal.Reading
import SIUnits.Proofs.Binary64.Rounding

/-! Reading a decimal literal rounds its exact value (`Decimal.Literal.toBinary64_eq_round`): the
position of the leading digit decides only literals that round to zero or are too large. -/
namespace SIUnits

-- Powers are the core ones, whatever algebra is in scope.
attribute [local instance (2000)] instPowNat

open Magnitude

namespace Decimal

namespace Digits

theorem value_append (ds es : Digits) :
    value (ds ++ es) = 10 ^ es.length * value ds + value es := by
  induction es using List.reverseRecOn with
  | nil => simp [value]
  | append_singleton es d ih =>
    rw [← List.append_assoc, value_append_singleton, ih, value_append_singleton,
      List.length_append, List.length_singleton, Nat.pow_add]
    ring

theorem value_lt (ds : Digits) : value ds < 10 ^ ds.length := by
  induction ds using List.reverseRecOn with
  | nil => decide
  | append_singleton ds d ih =>
    rw [value_append_singleton, List.length_append, List.length_singleton, Nat.pow_add]
    have := d.isLt
    omega

theorem value_cons (d : Digit) (ds : Digits) :
    value (d :: ds) = 10 ^ ds.length * d.val + value ds := by
  have h := value_append [d] ds
  rwa [List.singleton_append, show value [d] = d.val by simp [value]] at h

/-- Leading zeros say nothing. -/
theorem value_dropWhile_zero (ds : Digits) : value (ds.dropWhile (· = .zero)) = value ds := by
  induction ds with
  | nil => rfl
  | cons d ds ih =>
    by_cases hd : d = .zero
    · subst hd
      rw [List.dropWhile_cons_of_pos (by simp), ih, value_cons]
      simp [Digit.zero]
    · rw [List.dropWhile_cons_of_neg (by simpa using hd)]

/-- A numeral without a leading zero uses its leading place. -/
theorem le_value {d : Digit} (ds : Digits) (hd : d ≠ .zero) : 10 ^ ds.length ≤ value (d :: ds) := by
  have hpos : 1 ≤ d.val := by
    rw [Nat.one_le_iff_ne_zero]
    exact fun h => hd (Fin.ext h)
  rw [value_cons]
  exact le_add_right (Nat.le_mul_of_pos_right _ hpos)

theorem head?_ofNatWithin {width n : ℕ} (h : n < 10 ^ width) (hn : n ≠ 0) :
    (ofNatWithin width n).head? ≠ some .zero := by
  induction width generalizing n with
  | zero => simp at h; omega
  | succ width ih =>
    have hquotient : n / 10 < 10 ^ width := by rw [Nat.pow_succ] at h; omega
    simp only [ofNatWithin]
    split
    · simp [Digit.zero]; omega
    · next hten =>
      have hnil : ofNatWithin width (n / 10) ≠ [] := by
        cases width with
        | zero => simp at hquotient; omega
        | succ width => exact ofNatWithin_ne_nil width _
      rw [List.head?_append_of_ne_nil _ hnil]
      exact ih hquotient (by omega)

/-- Only zero is written with a zero in front. -/
theorem head?_ofNat {n : ℕ} (hn : n ≠ 0) : (ofNat n).head? ≠ some .zero := by
  refine head?_ofNatWithin ?_ hn
  calc n < 2 ^ (n.log2 + 1) := Nat.lt_log2_self
    _ ≤ 10 ^ (n.log2 + 1) := Nat.pow_le_pow_left (by decide) _

theorem lt_ten_pow_length (n : ℕ) : n < 10 ^ (ofNat n).length := by
  have h := (ofNat n).value_lt
  rwa [value_ofNat] at h

theorem ten_pow_length_le {n : ℕ} (hn : n ≠ 0) : 10 ^ ((ofNat n).length - 1) ≤ n := by
  have hhead := head?_ofNat hn
  have hvalue := value_ofNat n
  obtain ⟨d, ds, hds⟩ := List.exists_cons_of_ne_nil (ofNat_ne_nil n)
  rw [hds] at hhead hvalue ⊢
  have h := le_value ds fun hd => hhead (congrArg some hd)
  rwa [hvalue] at h

end Digits

namespace Literal

/-- The size of the number that a literal stands for, without its sign. -/
def toRat (l : Literal) : ℚ := l.coefficient * 10 ^ l.power

theorem toRat_nonneg (l : Literal) : 0 ≤ l.toRat := by
  unfold toRat
  positivity

theorem coefficient_eq (l : Literal) : l.coefficient = l.significantDigits.value :=
  (Digits.value_dropWhile_zero l.digits).symm

theorem toRat_eq_zero {l : Literal} (h : l.significantDigits = []) : l.toRat = 0 := by
  rw [toRat, coefficient_eq, h]
  simp [Digits.value]

/-- A literal is below the place to the left of its leading digit. -/
theorem toRat_lt (l : Literal) : l.toRat < 10 ^ l.leadingPosition := by
  have h : (l.coefficient : ℚ) < 10 ^ l.significantDigits.length := by
    rw [coefficient_eq]
    exact_mod_cast l.significantDigits.value_lt
  rw [leadingPosition, zpow_add₀ (by norm_num), zpow_natCast]
  exact mul_lt_mul_of_pos_right h (by positivity)

theorem le_toRat {l : Literal} (h : l.significantDigits ≠ []) :
    10 ^ (l.leadingPosition - 1) ≤ l.toRat := by
  obtain ⟨d, ds, hds⟩ := List.exists_cons_of_ne_nil h
  have hd : d ≠ .zero := by
    have := List.head?_dropWhile_not (· = Digit.zero) l.digits
    rw [← significantDigits, hds] at this
    simpa using this
  have hc : (10 : ℚ) ^ ds.length ≤ l.coefficient := by
    rw [coefficient_eq, hds]
    exact_mod_cast Digits.le_value ds hd
  have hlen : l.leadingPosition - 1 = (ds.length : ℤ) + l.power := by
    rw [leadingPosition, hds, List.length_cons]
    omega
  rw [hlen, zpow_add₀ (by norm_num), zpow_natCast]
  exact mul_le_mul_of_nonneg_right hc (by positivity)

end Literal

end Decimal

/-! ### The nearest double -/

theorem Magnitude.nearestDecimal?_eq_round? (c : ℕ) (e : ℤ) :
    nearestDecimal? c e = round? (c * 10 ^ e) := by
  have hs := stepsInOne_cast_pos
  cases e with
  | ofNat e =>
    rw [nearestDecimal?, nearest?_eq_round? _ Nat.one_pos]
    push_cast
    rw [div_one, mul_div_assoc, div_self hs.ne', mul_one, Int.ofNat_eq_natCast, zpow_natCast]
  | negSucc e =>
    rw [nearestDecimal?, nearest?_eq_round? _ (Nat.pow_pos (by decide))]
    push_cast
    rw [div_right_comm, mul_div_assoc, div_self hs.ne', mul_one, zpow_negSucc, div_eq_mul_inv]

private theorem two_pow_le_ten_pow : (2 : ℚ) ^ (1023 : ℕ) ≤ 10 ^ (308 : ℕ) :=
  calc (2 : ℚ) ^ (1023 : ℕ) = (2 ^ 93) ^ 11 := by rw [← pow_mul]
    _ ≤ (10 ^ 28) ^ 11 := by
      gcongr ?_ ^ _
      norm_num
    _ = 10 ^ (308 : ℕ) := by rw [← pow_mul]

/-- From this place on a decimal is beyond the largest double. -/
private theorem overflowBound_le : overflowBound ≤ 10 ^ (310 : ℤ) :=
  calc overflowBound ≤ 2 ^ (1023 + 1) := sub_le_self _ (by positivity)
    _ = 2 ^ 1023 * 2 := pow_succ _ _
    _ ≤ 10 ^ 308 * 10 ^ 2 := by
      gcongr ?_ * ?_
      · exact two_pow_le_ten_pow
      · norm_num
    _ = 10 ^ (310 : ℤ) := by rw [← pow_add, ← zpow_natCast]; rfl

/-- Below this place a decimal is under half of the least double. -/
private theorem le_half_step : (10 : ℚ) ^ (-331 : ℤ) ≤ 1 / 2 / stepsInOne := by
  have h : (2 : ℚ) * 2 ^ 1074 ≤ 10 ^ 331 :=
    calc (2 : ℚ) * 2 ^ 1074 = 2 ^ 1023 * 2 ^ 52 := by rw [← pow_succ', ← pow_add]
      _ ≤ 10 ^ 308 * 10 ^ 23 := by
        gcongr ?_ * ?_
        · exact two_pow_le_ten_pow
        · norm_num
      _ = 10 ^ 331 := by rw [← pow_add]
  rw [stepsInOne_cast, div_div, zpow_neg, ← one_div]
  exact one_div_le_one_div_of_le (by positivity) h

namespace Decimal.Literal

/-- The shortcuts for huge and tiny literals give what rounding would. -/
theorem size?_eq_round? (l : Literal) : l.size? = round? l.toRat := by
  unfold size?
  split
  · next hnil => rw [toRat_eq_zero hnil, round?_zero]
  · next hne =>
    split
    · next hhigh =>
      refine ((round?_eq_none_iff l.toRat_nonneg).mpr ?_).symm
      calc overflowBound ≤ 10 ^ (310 : ℤ) := overflowBound_le
        _ ≤ 10 ^ (l.leadingPosition - 1) := zpow_le_zpow_right₀ (by norm_num) (by omega)
        _ ≤ l.toRat := le_toRat hne
    split
    · next hlow =>
      refine (round?_eq_zero l.toRat_nonneg ?_).symm
      calc l.toRat ≤ 10 ^ l.leadingPosition := (toRat_lt l).le
        _ ≤ 10 ^ (-331 : ℤ) := zpow_le_zpow_right₀ (by norm_num) (by omega)
        _ ≤ 1 / 2 / stepsInOne := le_half_step
    · exact nearestDecimal?_eq_round? l.coefficient l.power

/-- Reading rounds the exact value once. -/
theorem toBinary64_eq_round (l : Literal) : l.toBinary64 = Binary64.round l.isNegative l.toRat := by
  rw [toBinary64, size?_eq_round?]
  rfl

end Decimal.Literal

end SIUnits
