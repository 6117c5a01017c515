import SIUnits.Decimal.Layout
import SIUnits.Proofs.Decimal.Reading

/-! The written form of a finite double is read back as that double
(`Binary64.toBinary64_literal`). A layout only moves the point, so the literal that it makes stands
for the decimal it was made from (`Decimal.Layout.toRat_literal`). -/
namespace SIUnits

-- Powers are the core ones, whatever algebra is in scope.
attribute [local instance (2000)] instPowNat

open Magnitude

namespace Decimal

namespace Layout

theorem length_zeros (n : ℕ) : (zeros n).length = n := List.length_replicate

theorem value_zeros (n : ℕ) : (zeros n).value = 0 := by
  induction n with
  | zero => rfl
  | succ n ih =>
    rw [zeros, List.replicate_succ, Digits.value_cons, ← zeros, ih]
    simp [Digit.zero]

theorem value_zeros_append (n : ℕ) (ds : Digits) : (zeros n ++ ds).value = ds.value := by
  rw [Digits.value_append, value_zeros, mul_zero, zero_add]

theorem value_append_zeros (ds : Digits) (n : ℕ) : (ds ++ zeros n).value = 10 ^ n * ds.value := by
  rw [Digits.value_append, value_zeros, length_zeros, add_zero]

/-- A point within the digits only splits them. -/
private theorem positional_of_lt {ds : Digits} {p : ℕ} (h : p < ds.length) :
    (positional ds p).2 = ds.drop p ∧
      ((positional ds p).1 ++ (positional ds p).2).value = ds.value := by
  have hpad : ds ++ zeros (p - ds.length) = ds := by
    rw [Nat.sub_eq_zero_of_le h.le, zeros, List.replicate_zero, List.append_nil]
  have hdrop : ds.drop p ≠ [] := by simpa using h
  have hsnd : (positional ds p).2 = ds.drop p := by
    simp only [positional, hpad, if_neg hdrop]
  refine ⟨hsnd, ?_⟩
  rw [hsnd]
  by_cases hp : p = 0
  · subst hp
    exact value_zeros_append 1 ds
  · simp only [positional, hpad, if_neg hp, List.take_append_drop]

/-- A point behind the digits is filled up to, and has one zero after it. -/
private theorem positional_of_ge {ds : Digits} (hds : ds ≠ []) {p : ℕ} (h : ds.length ≤ p) :
    positional ds p = (ds ++ zeros (p - ds.length), [.zero]) := by
  have hpos : 0 < ds.length := List.length_pos_iff.mpr hds
  have hlen : (ds ++ zeros (p - ds.length)).length = p := by
    rw [List.length_append, length_zeros]
    omega
  have hp : p ≠ 0 := by omega
  simp only [positional, if_neg hp, List.take_of_length_le hlen.le,
    List.drop_eq_nil_of_le hlen.le, if_true]

/-- With the point at position `p` the digits stand for `ds * 10 ^ (p - length)`. -/
theorem value_positional {ds : Digits} (hds : ds ≠ []) (p : ℤ) :
    (((positional ds p).1 ++ (positional ds p).2).value : ℚ) *
      10 ^ (-((positional ds p).2.length : ℤ)) = ds.value * 10 ^ (p - ds.length) := by
  cases p with
  | ofNat p =>
    rcases lt_or_ge p ds.length with h | h
    · obtain ⟨hsnd, hvalue⟩ := positional_of_lt h
      rw [Int.ofNat_eq_natCast, hvalue, hsnd, List.length_drop]
      congr 2
      omega
    · rw [Int.ofNat_eq_natCast, positional_of_ge hds h]
      have hvalue : (ds ++ zeros (p - ds.length) ++ [Digit.zero]).value =
          10 ^ (p - ds.length + 1) * ds.value := by
        rw [List.append_assoc, show [Digit.zero] = zeros 1 from rfl, zeros, zeros,
          List.replicate_append_replicate, ← zeros, value_append_zeros]
      have hexp : (p : ℤ) - ds.length = ((p - ds.length + 1 : ℕ) : ℤ) + -1 := by omega
      rw [hvalue, hexp, zpow_add₀ (by norm_num), zpow_natCast]
      push_cast
      rw [List.length_singleton]
      ring
  | negSucc q =>
    have hvalue : Digits.value ([.zero] ++ (zeros (q + 1) ++ ds)) = ds.value :=
      (value_zeros_append 1 _).trans (value_zeros_append _ _)
    rw [positional, hvalue, List.length_append, length_zeros]
    congr 2
    omega

theorem positional_snd_ne_nil {ds : Digits} (hds : ds ≠ []) (p : ℤ) :
    (positional ds p).2 ≠ [] := by
  unfold positional
  split
  · dsimp only
    split <;> simp_all
  · simp [hds]

theorem value_exponent (layout : Layout) (e : ℤ) : (layout.exponent e).value = e := by
  have hv : (padLeft layout.exponentWidth (Digits.ofNat e.natAbs)).value = e.natAbs := by
    rw [padLeft, value_zeros_append, Digits.value_ofNat]
  rcases lt_or_ge e 0 with h | h
  · have hs : (layout.exponent e).sign = some .minus := by simp [exponent, h]
    rw [Exponent.value, if_pos hs, exponent, hv]
    omega
  · have hs : (layout.exponent e).sign ≠ some .minus := by simp [exponent, not_lt.mpr h]
    rw [Exponent.value, if_neg hs, exponent, hv]
    omega

variable (layout : Layout) (negative : Bool) (c : ℕ) (e : ℤ)

theorem sign_literal :
    (layout.literal negative c e).sign = if negative = true then some .minus else none := by
  unfold literal
  dsimp only
  split <;> rfl

theorem isNegative_literal : (layout.literal negative c e).isNegative = negative := by
  rw [Literal.isNegative, sign_literal]
  cases negative <;> rfl

theorem wellFormed_literal : (layout.literal negative c e).WellFormed := by
  have hds := Digits.ofNat_ne_nil c
  unfold literal
  dsimp only
  split
  · exact ⟨Or.inr (positional_snd_ne_nil hds _), by simp⟩
  · refine ⟨Or.inl (by simpa using hds), ?_⟩
    simp [exponent, padLeft, Digits.ofNat_ne_nil]

/-- An exponent is written unless the point stands within the bounds of the layout. -/
theorem exponent_literal : (layout.literal negative c e).exponent =
    if layout.leastPositional ≤ (Digits.ofNat c).length + e ∧
        (Digits.ofNat c).length + e ≤ layout.mostPositional then none
    else some (layout.exponent ((Digits.ofNat c).length + e - 1)) := by
  unfold literal
  dsimp only
  split <;> rfl

theorem exponent_literal_eq_none_iff : (layout.literal negative c e).exponent = none ↔
    layout.leastPositional ≤ (Digits.ofNat c).length + e ∧
      (Digits.ofNat c).length + e ≤ layout.mostPositional := by
  rw [exponent_literal]
  split_ifs with hp <;> simp [hp]

/-- Before an exponent the point stands after the first digit. -/
theorem literal_of_exponent (h : (layout.literal negative c e).exponent ≠ none) :
    (layout.literal negative c e).whole = (Digits.ofNat c).take 1 ∧
      (layout.literal negative c e).coefficient = c ∧ (layout.literal negative c e).power = e := by
  have hds := Digits.ofNat_ne_nil c
  have hlen : 1 ≤ (Digits.ofNat c).length := List.length_pos_iff.mpr hds
  have hp := mt (layout.exponent_literal_eq_none_iff negative c e).mpr h
  unfold literal
  dsimp only
  rw [if_neg hp]
  have hdigits : (Digits.ofNat c).take 1 ++
      (if (Digits.ofNat c).length = 1 then none else some ((Digits.ofNat c).drop 1)).getD [] =
        Digits.ofNat c := by
    split
    · next h1 => rw [Option.getD_none, List.append_nil, List.take_of_length_le h1.le]
    · exact List.take_append_drop 1 _
  generalize (if (Digits.ofNat c).length = 1 then none else some ((Digits.ofNat c).drop 1))
    = fraction at hdigits ⊢
  have hfraction : 1 + (fraction.getD []).length = (Digits.ofNat c).length := by
    have := congrArg List.length hdigits
    rwa [List.length_append, List.length_take, min_eq_left hlen] at this
  refine ⟨rfl, ?_, ?_⟩
  · rw [Literal.coefficient, Literal.digits, hdigits, Digits.value_ofNat]
  · rw [Literal.power, Option.elim_some, value_exponent]
    dsimp only
    omega

/-- Whatever form a layout takes, it denotes the decimal that it was given. -/
theorem toRat_literal : (layout.literal negative c e).toRat = c * 10 ^ e := by
  by_cases hx : (layout.literal negative c e).exponent = none
  · have h := value_positional (Digits.ofNat_ne_nil c) ((Digits.ofNat c).length + e)
    rw [Digits.value_ofNat, add_sub_cancel_left] at h
    have hp := (layout.exponent_literal_eq_none_iff negative c e).mp hx
    unfold literal
    dsimp only
    rw [← h, if_pos hp]
    simp [Literal.toRat, Literal.coefficient, Literal.digits, Literal.power]
  · obtain ⟨-, hc, he⟩ := layout.literal_of_exponent negative c e hx
    rw [Literal.toRat, hc, he]

end Layout

namespace Literal

/-- The characters that literals are written in. -/
def alphabet : List Char := "0123456789+-.eE".toList

theorem toChars_subset_alphabet (l : Literal) : l.toChars ⊆ alphabet := by
  have hdigit : ∀ d : Digit, d.toChar ∈ alphabet := by decide
  have hdigits : ∀ ds : Digits, ds.toChars ⊆ alphabet := by
    intro ds c hc
    obtain ⟨d, -, rfl⟩ := List.mem_map.mp hc
    exact hdigit d
  have hsign : ∀ s : Option Sign, Sign.toChars s ⊆ alphabet := by
    rintro (_ | _ | _) <;> decide
  have hpoint : '.' ∈ alphabet := by decide
  have hletter : ∀ capital : Bool, (if capital then 'E' else 'e') ∈ alphabet := by decide
  have hfraction : fractionChars l.fraction ⊆ alphabet := by
    cases l.fraction with
    | none => exact List.nil_subset _
    | some ds => exact List.cons_subset.mpr ⟨hpoint, hdigits ds⟩
  have hexponent : Exponent.toChars l.exponent ⊆ alphabet := by
    cases l.exponent with
    | none => exact List.nil_subset _
    | some x =>
      exact List.cons_subset.mpr ⟨hletter x.capital,
        List.append_subset.mpr ⟨hsign x.sign, hdigits x.digits⟩⟩
  simp only [toChars, List.append_subset]
  exact ⟨hsign l.sign, hdigits l.whole, hfraction, hexponent⟩

theorem space_not_mem_toChars (l : Literal) : ' ' ∉ l.toChars :=
  fun h => absurd (l.toChars_subset_alphabet h) (by decide)

end Literal

end Decimal

namespace Magnitude

private theorem five_pow_cast (k : ℕ) : ((5 ^ k : ℕ) : ℚ) = 5 ^ k := by
  rw [Nat.cast_pow, Nat.cast_ofNat]

private theorem decimalRatio_eq : decimalRatio = 5 ^ (1074 : ℕ) := by unfold decimalRatio; rfl

private theorem five_pow_mul_two_pow (k : ℕ) : (5 : ℚ) ^ k * 2 ^ k = 10 ^ k := by
  rw [← mul_pow]
  norm_num

/-- The two kinds of steps together make up the powers of ten. -/
theorem decimalRatio_mul_stepsInOne : (decimalRatio : ℚ) * stepsInOne = 10 ^ (1074 : ℕ) := by
  have h := (congrArg Nat.cast decimalRatio_eq).trans (five_pow_cast 1074)
  rw [h, stepsInOne_cast]
  exact five_pow_mul_two_pow 1074

private theorem ten_pow_div (c i k : ℕ) :
    ((c * 10 ^ i : ℕ) : ℚ) / 10 ^ k = c * 10 ^ ((i : ℤ) - k) := by
  rw [zpow_sub₀ (by norm_num), zpow_natCast, zpow_natCast, Nat.cast_mul, mul_div_assoc]
  push_cast
  rfl

/-- A point of a grid reads back if it rounds to the size. -/
theorem readsBack_iff {x : Magnitude} {c i : ℕ} :
    x.ReadsBack c i ↔ x.IsNearest (c * 10 ^ ((i : ℤ) - 1074)) := by
  rw [ReadsBack, nearest?_eq_round? _ decimalRatio_pos, div_div, decimalRatio_mul_stepsInOne,
    ten_pow_div, round?_eq_some_iff (by positivity)]
  rfl

/-- The shortest decimal of a double rounds to the double. -/
theorem round?_shortest (x : Magnitude) :
    round? (x.shortest.1 * 10 ^ x.shortest.2) = some x := by
  unfold shortest
  split
  · next h =>
    rw [eq_zero_of_significand h, Nat.cast_zero, zero_mul, round?_zero]
  · rw [round?_eq_some_iff (by positivity)]
    exact readsBack_iff.mp x.readsBack_shortestPoint

end Magnitude

namespace Binary64

open Decimal

theorem text_finite (s : Bool) (x : Magnitude) :
    (text (.finite s x)).toList = (literal s x).toChars := String.toList_ofList

theorem space_not_mem_text (s : Bool) (x : Magnitude) : ' ' ∉ (text (.finite s x)).toList := by
  rw [text_finite]
  exact (literal s x).space_not_mem_toChars

theorem ofString?_text (s : Bool) (x : Magnitude) :
    Literal.ofString? (text (.finite s x)) = some (literal s x) := by
  rw [Literal.ofString?, text_finite]
  exact Literal.ofChars?_toChars (Layout.wellFormed_literal _ _ _ _)

theorem toBinary64_literal (s : Bool) (x : Magnitude) :
    (literal s x).toBinary64 = .finite s x := by
  rw [Literal.toBinary64_eq_round, literal, Layout.isNegative_literal, Layout.toRat_literal,
    round_of_some s x.round?_shortest]

end Binary64

end SIUnits
