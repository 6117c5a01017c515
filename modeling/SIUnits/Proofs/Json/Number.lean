import Mathlib.Tactic.FinCases
import SIUnits.Json.Printer
import SIUnits.Json.Reader
import SIUnits.Proofs.Decimal.ReadBack

/-! Written numbers are read back. A whole number has no zero in front (`Digits.head?_ofNat`), and
the layout of a double keeps a digit on both sides of its point, so both are numerals as JSON has
them (`isNumeral_ofInt`, `isNumeral_literal`); the point or the exponent tells a double from a whole
number. The doubles that are not finite are words (`readValue_number`). -/
namespace SIUnits

-- Powers are the core ones, whatever algebra is in scope.
attribute [local instance (2000)] instPowNat

namespace Decimal

/-- The literal of a whole number. -/
def Literal.ofInt (n : ℤ) : Literal :=
  ⟨if n < 0 then some .minus else none, Digits.ofNat n.natAbs, none, none⟩

theorem Literal.wellFormed_ofInt (n : ℤ) : (ofInt n).WellFormed :=
  ⟨.inl (Digits.ofNat_ne_nil _), by simp [ofInt]⟩

theorem Literal.toChars_ofInt (n : ℤ) : (ofInt n).toChars = integer n := by
  by_cases h : n < 0 <;>
    simp [toChars, ofInt, integer, h, Sign.toChars, Sign.toChar, fractionChars, Exponent.toChars]

namespace Layout

/-- The whole part that is put before the point is one digit, or starts as the digits do. -/
theorem positional_fst {ds : Digits} (hds : ds ≠ []) (p : ℤ) :
    (positional ds p).1.length = 1 ∨ (positional ds p).1.head? = ds.head? := by
  cases p with
  | ofNat p =>
    cases p with
    | zero => exact .inl rfl
    | succ p =>
      obtain ⟨d, ds, rfl⟩ := List.exists_cons_of_ne_nil hds
      exact .inr rfl
  | negSucc q => exact .inl rfl

theorem positional_fst_ne_nil {ds : Digits} (hds : ds ≠ []) (p : ℤ) :
    (positional ds p).1 ≠ [] := by
  intro hnil
  have h := positional_fst hds p
  rw [hnil] at h
  obtain ⟨d, ds, rfl⟩ := List.exists_cons_of_ne_nil hds
  rcases h with h | h <;> cases h

end Layout

end Decimal

theorem Magnitude.shortest_eq_zero {x : Magnitude} (h : x.shortest.1 = 0) : x.shortest.2 = 0 := by
  have hround := x.round?_shortest
  rw [h, Nat.cast_zero, zero_mul, round?_zero] at hround
  have hx : x.significand = 0 := by rw [← Option.some.inj hround]; rfl
  rw [shortest, if_pos hx]

namespace Json

open Decimal

theorem isNumeral_ofInt (n : ℤ) : isNumeral (Literal.ofInt n) = true := by
  have hnil : Digits.ofNat n.natAbs ≠ [] := Digits.ofNat_ne_nil _
  have hhead : (Digits.ofNat n.natAbs).length = 1 ∨
      (Digits.ofNat n.natAbs).head? ≠ some .zero := by
    by_cases h : n.natAbs = 0
    · rw [h]
      exact .inl (by decide)
    · exact .inr (Digits.head?_ofNat h)
  have hsign : (Literal.ofInt n).sign ≠ some .plus := by
    unfold Literal.ofInt
    dsimp only
    split <;> simp
  simp only [isNumeral, Bool.and_eq_true, Bool.or_eq_true, decide_eq_true_eq]
  exact ⟨⟨⟨hsign, hnil⟩, hhead⟩, by simp [Literal.ofInt]⟩

theorem numberOf_ofInt (n : ℤ) : numberOf (Literal.ofInt n) = .integer n := by
  have hcoefficient : (Literal.ofInt n).coefficient = n.natAbs := by
    simp [Literal.coefficient, Literal.digits, Literal.ofInt, Digits.value_ofNat]
  have hnegative : (Literal.ofInt n).isNegative = decide (n < 0) := by
    by_cases h : n < 0 <;> simp [Literal.isNegative, Literal.ofInt, h]
  have hwhole : (Literal.ofInt n).fraction = none ∧ (Literal.ofInt n).exponent = none := ⟨rfl, rfl⟩
  rw [numberOf, if_pos hwhole, hcoefficient, hnegative]
  congr 1
  rcases lt_or_ge n 0 with h | h
  · rw [decide_eq_true h, if_pos rfl, Int.ofNat_natAbs_of_nonpos h.le, neg_neg]
  · rw [decide_eq_false (not_lt.mpr h), if_neg Bool.false_ne_true, Int.natAbs_of_nonneg h]

/-- A decimal is laid out as a numeral, if zero is given with the power zero. -/
theorem isNumeral_literal (negative : Bool) {c : ℕ} {e : ℤ} (h : c = 0 → e = 0) :
    isNumeral (Layout.plain.literal negative c e) = true := by
  have hds := Digits.ofNat_ne_nil c
  unfold Layout.literal
  dsimp only
  split
  · have hhead : (Layout.positional (Digits.ofNat c) ((Digits.ofNat c).length + e)).1.length = 1 ∨
        (Layout.positional (Digits.ofNat c) ((Digits.ofNat c).length + e)).1.head? ≠
          some .zero := by
      by_cases hc : c = 0
      · rw [hc, h hc]
        exact .inl (by decide)
      · refine (Layout.positional_fst hds _).imp id fun hsame => ?_
        rw [hsame]
        exact Digits.head?_ofNat hc
    have hfraction := Layout.positional_snd_ne_nil hds ((Digits.ofNat c).length + e)
    have hwhole := Layout.positional_fst_ne_nil hds ((Digits.ofNat c).length + e)
    cases negative <;> simp [isNumeral, hhead, hfraction, hwhole]
  · obtain ⟨d, ds, hcons⟩ := List.exists_cons_of_ne_nil hds
    rw [hcons]
    cases negative <;> cases ds <;> simp [isNumeral]

theorem numberOf_literal (s : Bool) (x : Magnitude) :
    numberOf (Binary64.literal s x) = .number (.finite s x) := by
  have hpoint : ¬((Binary64.literal s x).fraction = none ∧
      (Binary64.literal s x).exponent = none) := by
    unfold Binary64.literal Layout.literal
    dsimp only
    split <;> simp
  rw [numberOf, if_neg hpoint, Binary64.toBinary64_literal]

/-- The text does not go on with a character of a number. -/
def NoNumber (cs : List Char) : Prop := ∀ c ∈ cs.head?, isNumberChar c = false

theorem readNumber_toChars {l : Literal} (hl : l.WellFormed) (hnumeral : isNumeral l = true)
    {rest : List Char} (hrest : NoNumber rest) :
    readNumber (l.toChars ++ rest) = some (numberOf l, rest) := by
  have halphabet : Literal.alphabet.all isNumberChar = true := by decide
  have hchars : ∀ c ∈ l.toChars, isNumberChar c = true :=
    fun c hc => List.all_eq_true.mp halphabet c (l.toChars_subset_alphabet hc)
  have htake : rest.takeWhile isNumberChar = [] := by
    cases rest with
    | nil => rfl
    | cons c rest => simp [hrest c rfl]
  have hdrop : rest.dropWhile isNumberChar = rest := by
    cases rest with
    | nil => rfl
    | cons c rest => simp [hrest c rfl]
  rw [readNumber, List.takeWhile_append_of_pos hchars, List.dropWhile_append_of_pos hchars, htake,
    hdrop, List.append_nil, Literal.ofChars?_toChars hl]
  simp [hnumeral]

/-- What is no string, list or record is a word or a number. -/
theorem readValue_scalar {c : Char} (hspace : isSpace c = false)
    (hopening : c ≠ '"' ∧ c ≠ '[' ∧ c ≠ '\x7b') (n : ℕ) (cs : List Char) :
    readValue (n + 1) (c :: cs) = (readWord (c :: cs) words).or (readNumber (c :: cs)) := by
  have hskip : skipSpace (c :: cs) = c :: cs := by simp [skipSpace, hspace]
  obtain ⟨hquote, hbracket, hbrace⟩ := hopening
  rw [readValue, hskip]
  split <;> simp_all

theorem readValue_digit (d : Digit) (n : ℕ) (cs : List Char) :
    readValue (n + 1) (d.toChar :: cs) = readNumber (d.toChar :: cs) := by
  rw [readValue_scalar (by revert d; decide) (by revert d; decide)]
  fin_cases d <;> rfl

theorem readValue_minus_digit (d : Digit) (n : ℕ) (cs : List Char) :
    readValue (n + 1) ('-' :: d.toChar :: cs) = readNumber ('-' :: d.toChar :: cs) := by
  rw [readValue_scalar (by decide) (by decide)]
  fin_cases d <;> rfl

theorem readValue_toChars {l : Literal} (hl : l.WellFormed) (hnumeral : isNumeral l = true)
    (n : ℕ) {rest : List Char} (hrest : NoNumber rest) :
    readValue (n + 1) (l.toChars ++ rest) = some (numberOf l, rest) := by
  rw [← readNumber_toChars hl hnumeral hrest]
  obtain ⟨sign, whole, fraction, exponent⟩ := l
  simp only [isNumeral, Bool.and_eq_true, decide_eq_true_eq] at hnumeral
  obtain ⟨⟨⟨hsign, hwhole⟩, -⟩, -⟩ := hnumeral
  obtain ⟨d, ds, rfl⟩ := List.exists_cons_of_ne_nil hwhole
  match sign with
  | none => exact readValue_digit d n _
  | some .minus => exact readValue_minus_digit d n _
  | some .plus => exact absurd rfl hsign

/-- A written whole number is read back. -/
theorem readValue_integer (i : ℤ) (n : ℕ) {rest : List Char} (hrest : NoNumber rest) :
    readValue (n + 1) (integer i ++ rest) = some (.integer i, rest) := by
  rw [← Literal.toChars_ofInt, readValue_toChars (Literal.wellFormed_ofInt i) (isNumeral_ofInt i)
    n hrest, numberOf_ofInt]

/-- Any of the words is read as its value. -/
theorem readValue_word (entry : String × Value) (h : entry ∈ words) (n : ℕ) (rest : List Char) :
    readValue (n + 1) (entry.1.toList ++ rest) = some (entry.2, rest) := by
  simp only [words, List.mem_cons, List.not_mem_nil, or_false] at h
  rcases h with rfl | rfl | rfl | rfl | rfl | rfl
  · exact readValue_scalar (by decide) (by decide) n ('u' :: 'l' :: 'l' :: rest)
  · exact readValue_scalar (by decide) (by decide) n ('r' :: 'u' :: 'e' :: rest)
  · exact readValue_scalar (by decide) (by decide) n ('a' :: 'l' :: 's' :: 'e' :: rest)
  · exact readValue_scalar (by decide) (by decide) n ('a' :: 'N' :: rest)
  · exact readValue_scalar (by decide) (by decide) n ("nfinity".toList ++ rest)
  · exact readValue_scalar (by decide) (by decide) n ("Infinity".toList ++ rest)

/-- A written double is read back. -/
theorem readValue_number (x : Binary64) (n : ℕ) {rest : List Char} (hrest : NoNumber rest) :
    readValue (n + 1) (number x ++ rest) = some (.number x, rest) := by
  match x with
  | .nan => exact readValue_word ("NaN", .number .nan) (by simp [words]) n rest
  | .infinite false =>
    exact readValue_word ("Infinity", .number (.infinite false)) (by simp [words]) n rest
  | .infinite true =>
    exact readValue_word ("-Infinity", .number (.infinite true)) (by simp [words]) n rest
  | .finite s size =>
    have htext : number (.finite s size) = (Binary64.literal s size).toChars :=
      Binary64.text_finite s size
    have hnumeral : isNumeral (Binary64.literal s size) = true :=
      isNumeral_literal s size.shortest_eq_zero
    have hwellFormed : (Binary64.literal s size).WellFormed := Layout.wellFormed_literal _ _ _ _
    rw [htext, readValue_toChars hwellFormed hnumeral n hrest, numberOf_literal]

end Json

end SIUnits
