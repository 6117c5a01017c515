import SIUnits.Proofs.Binary64.Signed
import SIUnits.Proofs.Decimal.Grammar
import SIUnits.Proofs.Query.Line

/-! The numbers of queries. A token is refused unless it is in the grammar of decimal literals, and
the number that it denotes is rounded before its size and its sign are looked at
(`Query.quantityOf_reads`). A number below zero is therefore accepted if it rounds to zero
(`Query.quantityOf_below_zero`). -/
namespace SIUnits

open Decimal
open Magnitude (overflowBound)

variable {l : Literal} {token : String} {s : Bool} {x : Magnitude}

namespace Decimal.Literal

theorem toBinary64_of_large (h : overflowBound ≤ |l.value|) :
    l.toBinary64 = .infinite l.isNegative := by
  rw [abs_value] at h
  rw [toBinary64_eq_round, Binary64.round_eq_infinite _ l.toRat_nonneg h]

/-- The sign of a number that was read is the written one, also that of a zero. -/
theorem toBinary64_of_isNearest (h : Binary64.IsNearest l.value s x) :
    l.toBinary64 = .finite l.isNegative x := by
  have hx := h.isNearest_abs
  rw [abs_value] at hx
  obtain ⟨y, hy, hny⟩ := Binary64.round_eq_finite l.isNegative l.toRat_nonneg hx.lt_bound
  rw [toBinary64_eq_round, hy, hny.unique hx]

theorem isNegative_of_isNearest (h : Binary64.IsNearest l.value s x) (hx : x ≠ .zero) :
    l.isNegative = s := by
  have hne : l.value ≠ 0 := by
    intro h0
    refine hx (h.eq_zero_iff.mpr ?_)
    rw [h0, abs_zero]
    positivity
  have hdigit : ∃ d ∈ l.digits, d ≠ .zero := by
    by_contra hall
    push Not at hall
    exact hne (value_eq_zero_iff.mpr hall)
  have hsign : l.isNegative = true ↔ l.value < 0 := by
    rw [isNegative_iff, value_neg_iff, and_iff_left hdigit]
  rw [h.sign hx, Bool.eq_iff_iff, hsign, decide_eq_true_iff]

end Decimal.Literal

namespace Query

/-- The token is refused as no quantity, for a failure of this kind with this entry in its
context. -/
def RefusedAs (token kind key : String) (value : Value) : Prop :=
  ∃ f, quantityOf token = .error (.failure f) ∧ f.kind.name = kind ∧ f.token = some token ∧
    f.context = [(key, value), ("token", .text token)]

theorem not_refusedAs_of_ok {q : Binary64} {kind key : String} {value : Value}
    (h : quantityOf token = .ok q) : ¬ RefusedAs token kind key value := by
  rintro ⟨f, hf, -⟩
  rw [h] at hf
  cases hf

/-- A token is refused for one reason. -/
theorem RefusedAs.eq {kind kind' key key' : String} {value value' : Value}
    (h : RefusedAs token kind key value) (h' : RefusedAs token kind' key' value') :
    kind = kind' ∧ key = key' ∧ value = value' := by
  obtain ⟨f, hf, rfl, -, hc⟩ := h
  obtain ⟨f', hf', rfl, -, hc'⟩ := h'
  rw [hf] at hf'
  obtain rfl := Fault.failure.inj (Except.error.inj hf')
  rw [hc] at hc'
  obtain ⟨hentry, -⟩ := List.cons.inj hc'
  obtain ⟨hkey, hvalue⟩ := Prod.mk.inj hentry
  exact ⟨rfl, hkey, hvalue⟩

theorem refusedAs_of_not_mem (h : token.toList ∉ grammar) :
    RefusedAs token "InvalidNumber" "reason" (.text "not a decimal literal") :=
  ⟨_, quantityOf_of_not_literal (Literal.ofString?_eq_none_iff.mpr h), rfl, rfl, rfl⟩

section Literal

variable (hl : l.WellFormed) (ht : toString l = token)
include hl ht

theorem refusedAs_of_large (h : overflowBound ≤ |l.value|) :
    RefusedAs token "InvalidNumber" "reason" (.text "not finite") := by
  have hread := Literal.ofString?_of_toString hl ht
  exact ⟨_, quantityOf_of_infinite hread (by rw [Literal.toBinary64_of_large h]; rfl),
    rfl, rfl, rfl⟩

theorem refusedAs_of_belowZero (h : Binary64.IsNearest l.value s x)
    (hb : (Binary64.finite s x).isBelowZero = true) :
    RefusedAs token "NegativeNumber" "value" (.number (.finite s x)) := by
  obtain ⟨-, hx⟩ := Binary64.isBelowZero_finite_iff.mp hb
  have hv : l.toBinary64 = .finite s x := by
    rw [Literal.toBinary64_of_isNearest h, Literal.isNegative_of_isNearest h hx]
  have hq := quantityOf_of_negative (Literal.ofString?_of_toString hl ht) (by rw [hv]; rfl)
    (by rw [hv]; exact hb)
  rw [hv] at hq
  exact ⟨_, hq, rfl, rfl, rfl⟩

theorem quantityOf_of_isNearest (h : Binary64.IsNearest l.value s x)
    (hb : (Binary64.finite s x).isBelowZero = false) :
    quantityOf token = .ok (.finite false x) := by
  have hv := Literal.toBinary64_of_isNearest h
  have hb' : (Binary64.finite l.isNegative x).isBelowZero = false := by
    by_cases hx : x = .zero
    · rw [hx, ← Bool.not_eq_true, Binary64.isBelowZero_finite_iff]
      exact fun hz => hz.2 rfl
    · rwa [Literal.isNegative_of_isNearest h hx]
  have hq := quantityOf_of_quantity (Literal.ofString?_of_toString hl ht) (by rw [hv]; rfl)
    (by rw [hv]; exact hb')
  rw [hq, hv, Binary64.withoutSignedZero_of_notBelowZero hb']

theorem outcome_of_isNearest (h : Binary64.IsNearest l.value s x) :
    ((Binary64.finite s x).isBelowZero = true ∧
      RefusedAs token "NegativeNumber" "value" (.number (.finite s x))) ∨
    ((Binary64.finite s x).isBelowZero = false ∧ quantityOf token = .ok (.finite false x)) := by
  cases hb : (Binary64.finite s x).isBelowZero with
  | true => exact Or.inl ⟨rfl, refusedAs_of_belowZero hl ht h hb⟩
  | false => exact Or.inr ⟨rfl, quantityOf_of_isNearest hl ht h hb⟩

/-- A literal is refused as invalid only for its size. -/
theorem le_of_refusedAs_invalid {value : Value}
    (h : RefusedAs token "InvalidNumber" "reason" value) : overflowBound ≤ |l.value| := by
  by_contra hlt
  obtain ⟨x, hx⟩ := Binary64.exists_isNearest (not_le.mp hlt)
  rcases outcome_of_isNearest hl ht hx with ⟨-, hneg⟩ | ⟨-, hok⟩
  · exact absurd (hneg.eq h).1 (by decide)
  · exact not_refusedAs_of_ok hok h

theorem refusedAs_not_finite_iff :
    RefusedAs token "InvalidNumber" "reason" (.text "not finite") ↔ overflowBound ≤ |l.value| :=
  ⟨le_of_refusedAs_invalid hl ht, refusedAs_of_large hl ht⟩

theorem refusedAs_negative_iff (h : Binary64.IsNearest l.value s x) (value : Value) :
    RefusedAs token "NegativeNumber" "value" value ↔
      (Binary64.finite s x).isBelowZero = true ∧ value = .number (.finite s x) := by
  rcases outcome_of_isNearest hl ht h with ⟨hb, hneg⟩ | ⟨hb, hok⟩
  · rw [hb]
    refine ⟨fun hr => ⟨rfl, (hr.eq hneg).2.2⟩, ?_⟩
    rintro ⟨-, rfl⟩
    exact hneg
  · simp [hb, not_refusedAs_of_ok hok]

theorem quantityOf_eq_ok_iff (h : Binary64.IsNearest l.value s x) (q : Binary64) :
    quantityOf token = .ok q ↔
      (Binary64.finite s x).isBelowZero = false ∧ q = .finite false x := by
  rcases outcome_of_isNearest hl ht h with ⟨hb, hneg⟩ | ⟨hb, hok⟩
  · have hq : quantityOf token ≠ .ok q := fun hq => not_refusedAs_of_ok hq hneg
    simp [hb, hq]
  · rw [hb, hok, Except.ok.injEq, eq_comm]
    simp

theorem quantityOf_of_small (h : |l.value| ≤ 2 ^ (-1075 : ℤ)) : quantityOf token = .ok .zero := by
  have hle : (2 : ℚ) ^ (-1075 : ℤ) ≤ 2 ^ 1023 := by
    rw [← zpow_natCast]
    exact zpow_le_zpow_right₀ one_le_two (by decide)
  obtain ⟨x, hx⟩ := Binary64.exists_isNearest (Magnitude.lt_overflowBound (h.trans hle))
  obtain rfl := hx.eq_zero_iff.mpr h
  exact quantityOf_of_isNearest hl ht hx (by simp [Binary64.isBelowZero, Magnitude.zero])

/-- A number below zero that is accepted is too small to be told from zero. -/
theorem small_of_quantityOf {q : Binary64} (hneg : l.value < 0) (h : quantityOf token = .ok q) :
    |l.value| ≤ 2 ^ (-1075 : ℤ) := by
  have hlt : |l.value| < overflowBound := by
    by_contra hlarge
    exact not_refusedAs_of_ok h (refusedAs_of_large hl ht (not_lt.mp hlarge))
  obtain ⟨x, hx⟩ := Binary64.exists_isNearest hlt
  rw [decide_eq_true hneg] at hx
  obtain ⟨hb, -⟩ := (quantityOf_eq_ok_iff hl ht hx q).mp h
  rw [← hx.eq_zero_iff]
  by_contra hne
  rw [Binary64.isBelowZero_finite_iff.mpr ⟨rfl, hne⟩] at hb
  cases hb

end Literal

/-- Reading a number. The tokens of the grammar are the literals, each of which denotes one exact
number. A token of another form is refused, and so is a number that would round beyond the largest
double. Any other number is rounded to the nearest double, which is refused if it is below zero, and
is the quantity otherwise, a zero without its sign. -/
theorem quantityOf_reads (token : String) :
    (RefusedAs token "InvalidNumber" "reason" (.text "not a decimal literal") ↔
      token.toList ∉ grammar) ∧
    (token.toList ∈ grammar ↔ ∃! l : Literal, l.WellFormed ∧ toString l = token) ∧
    ∀ l : Literal, l.WellFormed → toString l = token →
      (RefusedAs token "InvalidNumber" "reason" (.text "not finite") ↔
        2 ^ 1024 - 2 ^ 970 ≤ |l.value|) ∧
      (|l.value| < 2 ^ 1024 - 2 ^ 970 → ∃ s x, Binary64.IsNearest l.value s x) ∧
      ∀ s x, Binary64.IsNearest l.value s x →
        (∀ value, RefusedAs token "NegativeNumber" "value" value ↔
          (Binary64.finite s x).isBelowZero = true ∧ value = .number (.finite s x)) ∧
        ∀ q, quantityOf token = .ok q ↔
          (Binary64.finite s x).isBelowZero = false ∧ q = .finite false x := by
  refine ⟨⟨fun h hmem => ?_, refusedAs_of_not_mem⟩, ?_, fun l hl ht => ?_⟩
  · obtain ⟨l, hl, ht⟩ := Literal.mem_grammar_iff_exists.mp hmem
    have hlarge := refusedAs_of_large hl ht (le_of_refusedAs_invalid hl ht h)
    have := (h.eq hlarge).2.2
    simp at this
  · rw [Literal.mem_grammar_iff_exists]
    refine ⟨fun ⟨l, hl, ht⟩ => ⟨l, ⟨hl, ht⟩, ?_⟩, ExistsUnique.exists⟩
    rintro l' ⟨hl', ht'⟩
    exact Literal.eq_of_toString hl hl' (ht'.trans ht.symm)
  · refine ⟨refusedAs_not_finite_iff hl ht, fun h => ?_, fun s x h =>
      ⟨refusedAs_negative_iff hl ht h, quantityOf_eq_ok_iff hl ht h⟩⟩
    obtain ⟨x, hx⟩ := Binary64.exists_isNearest h
    exact ⟨_, x, hx⟩

/-- Numbers below zero. A literal is below zero if it has a minus sign and a digit that is not zero.
As the sign is looked at after rounding, it is refused only beyond half of the least double, and
what is not is read as zero. -/
theorem quantityOf_below_zero (l : Literal) (hl : l.WellFormed) :
    (l.value < 0 ↔ l.sign = some .minus ∧ ∃ d ∈ l.digits, d ≠ .zero) ∧
    (l.value = 0 → quantityOf (toString l) = .ok .zero) ∧
    (l.value < 0 →
      ((∃ q, quantityOf (toString l) = .ok q) ↔ -2 ^ (-1075 : ℤ) ≤ l.value) ∧
      (∀ q, quantityOf (toString l) = .ok q → q = .zero) ∧
      (l.value < -2 ^ (-1075 : ℤ) → -(2 ^ 1024 - 2 ^ 970) < l.value →
        ∃ x, Binary64.IsNearest l.value true x ∧
          RefusedAs (toString l) "NegativeNumber" "value" (.number (.finite true x))) ∧
      (l.value ≤ -(2 ^ 1024 - 2 ^ 970) →
        RefusedAs (toString l) "InvalidNumber" "reason" (.text "not finite"))) := by
  refine ⟨Literal.value_neg_iff, fun h0 => ?_, fun hneg => ?_⟩
  · apply quantityOf_of_small hl rfl
    rw [h0, abs_zero]
    positivity
  have hsmall : |l.value| ≤ 2 ^ (-1075 : ℤ) ↔ -2 ^ (-1075 : ℤ) ≤ l.value := by
    rw [abs_of_neg hneg, neg_le]
  refine ⟨⟨?_, fun h => ⟨_, quantityOf_of_small hl rfl (hsmall.mpr h)⟩⟩, fun q hq => ?_,
    fun hlow hhigh => ?_, fun h => ?_⟩
  · rintro ⟨q, hq⟩
    exact hsmall.mp (small_of_quantityOf hl rfl hneg hq)
  · have hzero := quantityOf_of_small hl rfl (small_of_quantityOf hl rfl hneg hq)
    exact Except.ok.inj (hq.symm.trans hzero)
  · have hlt : |l.value| < overflowBound := by
      rw [abs_of_neg hneg]
      exact neg_lt.mp hhigh
    obtain ⟨x, hx⟩ := Binary64.exists_isNearest hlt
    rw [decide_eq_true hneg] at hx
    have hne : x ≠ .zero := fun h => (hsmall.mp (hx.eq_zero_iff.mp h)).not_gt hlow
    exact ⟨x, hx, refusedAs_of_belowZero hl rfl hx (Binary64.isBelowZero_finite_iff.mpr ⟨rfl, hne⟩)⟩
  · apply refusedAs_of_large hl rfl
    rw [abs_of_neg hneg]
    exact le_neg.mp h

/-- The number is closer to the largest negative double than to zero, and refused. -/
theorem quantityOf_below_zero_subnormal :
    let l : Literal := ⟨some .minus, [3], none, some ⟨false, some .minus, [3, 2, 4]⟩⟩
    l.WellFormed ∧ toString l = "-3e-324" ∧ ∃ x, Binary64.IsNearest l.value true x ∧
      RefusedAs "-3e-324" "NegativeNumber" "value" (.number (.finite true x)) := by
  intro l
  have hl : l.WellFormed := by decide
  have ht : toString l = "-3e-324" := by decide
  have hv : l.value = -(3 * 10 ^ (-324 : ℤ)) := by
    simp [l, Literal.value, Digits.value, Exponent.value]
  have hnot : (quantityOf "-3e-324").toOption = none := by decide +kernel
  obtain ⟨hneg, -, hbelow⟩ := quantityOf_below_zero l hl
  obtain ⟨hiff, -, hrefused, -⟩ := hbelow (hneg.mpr (by decide))
  rw [ht] at hiff hrefused
  refine ⟨hl, ht, hrefused (lt_of_not_ge fun hle => ?_) ?_⟩
  · obtain ⟨q, hq⟩ := hiff.mpr hle
    rw [hq] at hnot
    cases hnot
  · rw [hv, neg_lt_neg_iff]
    apply Magnitude.lt_overflowBound
    calc (3 : ℚ) * 10 ^ (-324 : ℤ) ≤ 3 * 1 := by
          gcongr
          exact zpow_le_one_of_nonpos₀ (by norm_num) (by decide)
      _ ≤ 2 ^ 1 * 2 ^ 1 := by norm_num
      _ ≤ 2 ^ 1023 := by
        rw [← pow_add]
        exact pow_le_pow_right₀ one_le_two (by decide)

/-- The number is closer to zero than to the largest negative double, and read as zero. -/
theorem quantityOf_accepts_below_zero :
    let l : Literal := ⟨some .minus, [1], none, some ⟨false, some .minus, [4, 0, 0]⟩⟩
    l.WellFormed ∧ toString l = "-1e-400" ∧ l.value < 0 ∧
      quantityOf "-1e-400" = .ok .zero := by
  intro l
  have hl : l.WellFormed := by decide
  have ht : toString l = "-1e-400" := by decide
  have hread : l.toBinary64 = .finite true .zero := by decide +kernel
  refine ⟨hl, ht, Literal.value_neg_iff.mpr (by decide), ?_⟩
  rw [quantityOf_of_quantity (Literal.ofString?_of_toString hl ht) (by rw [hread]; rfl)
    (by rw [hread]; rfl), hread]
  rfl

end Query

end SIUnits
