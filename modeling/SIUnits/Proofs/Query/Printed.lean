import SIUnits.Proofs.Decimal.Shortest
import SIUnits.Proofs.Query.Number

/-! Written doubles as quantities. A double is written as its shortest decimal, with an exponent
where it is too large or too small for a positional form (`Binary64.isWrittenForm_literal`). As a
quantity the text is read back as the double, or refused if the double is below zero
(`Query.quantityOf_printed`). -/
namespace SIUnits

-- Powers are the core ones, whatever algebra is in scope.
attribute [local instance (2000)] instPowNat

open Decimal Magnitude

variable {x : Magnitude} {c : ℕ} {e n : ℤ}

/-! ### The position of the point -/

theorem Decimal.Layout.le_length_padLeft (width : ℕ) (ds : Digits) :
    width ≤ (padLeft width ds).length := by
  rw [padLeft, List.length_append, length_zeros]
  omega

theorem Decimal.Digits.take_one_ofNat (hc : c ≠ 0) :
    ∃ d : Digit, d ≠ .zero ∧ (ofNat c).take 1 = [d] := by
  have hhead := head?_ofNat hc
  obtain ⟨d, ds, hds⟩ := List.exists_cons_of_ne_nil (ofNat_ne_nil c)
  rw [hds] at hhead ⊢
  exact ⟨d, fun hd => hhead (congrArg some hd), rfl⟩

/-- The point stands at the least power of ten above a decimal. -/
theorem Decimal.Digits.ten_pow_le_iff (hc : c ≠ 0) :
    (10 : ℚ) ^ n ≤ c * 10 ^ e ↔ n < (ofNat c).length + e := by
  have hlen : 0 < (ofNat c).length := List.length_pos_iff.mpr (ofNat_ne_nil c)
  have hlow : (10 : ℚ) ^ ((ofNat c).length - 1 + e) ≤ c * 10 ^ e := by
    rw [zpow_add₀ (by norm_num), ← Nat.cast_pred hlen, zpow_natCast]
    exact mul_le_mul_of_nonneg_right (by exact_mod_cast ten_pow_length_le hc) (by positivity)
  have hhigh : (c : ℚ) * 10 ^ e < 10 ^ ((ofNat c).length + e) := by
    rw [zpow_add₀ (by norm_num), zpow_natCast]
    exact mul_lt_mul_of_pos_right (by exact_mod_cast lt_ten_pow_length c) (by positivity)
  constructor
  · intro h
    exact (zpow_lt_zpow_iff_right₀ (by norm_num)).mp (h.trans_lt hhigh)
  · intro h
    exact (zpow_le_zpow_right₀ (by norm_num) (by omega)).trans hlow

namespace Magnitude

/-- The double nearest to `10 ^ -4` is a little above it. -/
theorem exists_isNearest_ten_thousandth :
    ∃ y : Magnitude, IsNearest (10 ^ (-4 : ℤ)) y ∧ 10 ^ (-4 : ℤ) ≤ y.toRat := by
  let y : Magnitude :=
    ⟨7378697629483821, 1008, by decide, by decide, Or.inr (by decide)⟩
  have hround : Binary64.powerOfTen (-4) = .finite false y := by decide +kernel
  have hsteps : stepsInOne ≤ 10 ^ (4 : ℕ) * y.steps := by
    rw [stepsInOne_eq]
    decide +kernel
  rw [Binary64.powerOfTen_eq_round] at hround
  refine ⟨y, Binary64.isNearest_of_round (by positivity) hround, ?_⟩
  have hcast : (stepsInOne : ℚ) ≤ 10 ^ (4 : ℕ) * y.steps := by exact_mod_cast hsteps
  rw [toRat, le_div_iff₀ stepsInOne_cast_pos, zpow_neg, inv_mul_le_iff₀ (by positivity)]
  exact hcast

theorem exists_isNearest_ten_pow_sixteen :
    ∃ y : Magnitude, IsNearest (10 ^ (16 : ℤ)) y ∧ 10 ^ (16 : ℤ) ≤ y.toRat := by
  obtain ⟨y, hy⟩ := exists_toRat_eq_ten_pow (e := 16) (by decide)
  exact ⟨y, hy ▸ y.isNearest_toRat, hy.ge⟩

/-- A double and its shortest decimal are on one side of a power of ten that does not round down. -/
theorem IsShortest.ten_pow_le_iff (h : x.IsShortest c e) (hx : x ≠ zero)
    (hn : ∃ y : Magnitude, IsNearest (10 ^ n) y ∧ 10 ^ n ≤ y.toRat) :
    (10 : ℚ) ^ n ≤ c * 10 ^ e ↔ 10 ^ n ≤ x.toRat := by
  obtain ⟨y, hy, hle⟩ := hn
  constructor
  · intro hc
    exact hle.trans (hy.mono h.rounds hc)
  · exact h.ten_pow_le hx

end Magnitude

/-! ### The written form -/

namespace Binary64

/-- How a finite double is written. -/
structure IsWrittenForm (s : Bool) (x : Magnitude) (l : Literal) : Prop where
  wellFormed : l.WellFormed
  sign : l.sign = if s = true then some .minus else none
  shortest : ∃ c e, x.IsShortest c e ∧ |l.value| = c * 10 ^ e
  positional : l.exponent = none ↔
    x = .zero ∨ 10 ^ (-4 : ℤ) ≤ x.toRat ∧ x.toRat < 10 ^ (16 : ℤ)
  /-- One digit stands before the point, and the exponent has a sign and two digits at least. -/
  scientific (y : Exponent) : l.exponent = some y →
    y.sign ≠ none ∧ 2 ≤ y.digits.length ∧ (∃ d, d ≠ .zero ∧ l.whole = [d]) ∧
      x.IsShortest l.coefficient l.power

theorem exponent_literal_eq_none_iff (s : Bool) (x : Magnitude) :
    (literal s x).exponent = none ↔
      x = .zero ∨ 10 ^ (-4 : ℤ) ≤ x.toRat ∧ x.toRat < 10 ^ (16 : ℤ) := by
  rw [literal, Layout.exponent_literal_eq_none_iff]
  by_cases hx : x = .zero
  · subst hx
    simp only [true_or, iff_true]
    decide
  · have h := x.isShortest_shortest
    have hc := h.rounds.coefficient_ne_zero hx
    rw [or_iff_right hx, ← not_le, ← h.ten_pow_le_iff hx exists_isNearest_ten_thousandth,
      ← h.ten_pow_le_iff hx exists_isNearest_ten_pow_sixteen, Digits.ten_pow_le_iff hc,
      Digits.ten_pow_le_iff hc, not_lt]
    rfl

theorem isWrittenForm_literal (s : Bool) (x : Magnitude) : IsWrittenForm s x (literal s x) := by
  have h := x.isShortest_shortest
  constructor
  case wellFormed => exact Layout.wellFormed_literal _ _ _ _
  case sign => exact Layout.sign_literal _ _ _ _
  case shortest =>
    refine ⟨_, _, h, ?_⟩
    rw [Literal.abs_value, literal, Layout.toRat_literal]
  case positional => exact exponent_literal_eq_none_iff s x
  case scientific =>
    intro y hy
    have hne : (literal s x).exponent ≠ none := by simp [hy]
    have hx : x ≠ .zero := fun hx => hne ((exponent_literal_eq_none_iff s x).mpr (Or.inl hx))
    obtain ⟨hwhole, hcoefficient, hpower⟩ := Layout.literal_of_exponent _ _ _ _ hne
    rw [literal, Layout.exponent_literal] at hy
    split_ifs at hy
    obtain rfl := Option.some.inj hy
    refine ⟨by simp [Layout.exponent], Layout.le_length_padLeft _ _, ?_, ?_⟩
    · rw [literal, hwhole]
      exact Digits.take_one_ofNat (h.rounds.coefficient_ne_zero hx)
    · rw [literal, hcoefficient, hpower]
      exact h

end Binary64

namespace Query

/-- Every finite double is written in the grammar of literals, as its shortest decimal. As a
quantity the text of a double with a plus sign is read back as that double, and the text of one
below zero is refused for being so. -/
theorem quantityOf_printed (x : Magnitude) :
    (∀ s, (Binary64.text (.finite s x)).toList ∈ grammar ∧
      ∃ l, toString l = Binary64.text (.finite s x) ∧ Binary64.IsWrittenForm s x l) ∧
    quantityOf (Binary64.text (.finite false x)) = .ok (.finite false x) ∧
    (x ≠ .zero → RefusedAs (Binary64.text (.finite true x)) "NegativeNumber" "value"
      (.number (.finite true x))) := by
  refine ⟨fun s => ?_, quantityOf_text x, fun hx => ?_⟩
  · have hform := Binary64.isWrittenForm_literal s x
    exact ⟨Literal.mem_grammar_iff_exists.mpr ⟨_, hform.wellFormed, rfl⟩, _, rfl, hform⟩
  · have hbelow := Binary64.isBelowZero_finite_iff.mpr ⟨rfl, hx⟩
    exact ⟨_, quantityOf_text_of_belowZero hbelow, rfl, rfl, rfl⟩

end Query

end SIUnits
