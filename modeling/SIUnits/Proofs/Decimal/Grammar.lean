import Mathlib.Computability.Language
import Mathlib.Data.List.TakeWhile
import SIUnits.Proofs.Decimal.Reading

/-! The grammar of decimal literals and the numbers that they denote. Literals are the parse trees
of the grammar: a text is in its language exactly if it is the text of a well-formed literal
(`mem_grammar_iff`), and of no other one (`Literal.eq_of_toString`). -/
namespace SIUnits.Decimal

open scoped Computability

namespace Grammar

/-- The texts of one character out of these. -/
def oneOf (set : String) : Language Char := {text | ∃ c ∈ set.toList, text = [c]}

def digit : Language Char := oneOf "0123456789"

def sign : Language Char := 1 + oneOf "+-"

/-- `digits+ [. digits*] | . digits+` -/
def mantissa : Language Char :=
  digit * digit∗ * (1 + oneOf "." * digit∗) + oneOf "." * (digit * digit∗)

/-- `[(e|E) [sign] digits+]` -/
def exponent : Language Char := 1 + oneOf "eE" * sign * (digit * digit∗)

end Grammar

/-- `[sign] (digits+ [. digits*] | . digits+) [(e|E) [sign] digits+]` -/
def grammar : Language Char := Grammar.sign * Grammar.mantissa * Grammar.exponent

namespace Grammar

variable {cs : List Char}

theorem mem_oneOf {set : String} : cs ∈ oneOf set ↔ ∃ c ∈ set.toList, cs = [c] := Iff.rfl

theorem mem_digit : cs ∈ digit ↔ ∃ d : Digit, [d.toChar] = cs := by
  have hset : "0123456789".toList = (List.finRange 10).map Digit.toChar := by decide
  rw [digit, mem_oneOf, hset]
  constructor
  · rintro ⟨c, hc, rfl⟩
    obtain ⟨d, -, rfl⟩ := List.mem_map.mp hc
    exact ⟨d, rfl⟩
  · rintro ⟨d, rfl⟩
    exact ⟨d.toChar, List.mem_map_of_mem (List.mem_finRange d), rfl⟩

/-- A run of digits, possibly empty, is a numeral. -/
theorem mem_digits : cs ∈ digit∗ ↔ ∃ ds : Digits, ds.toChars = cs := by
  rw [Language.mem_kstar]
  constructor
  · rintro ⟨parts, rfl, h⟩
    induction parts with
    | nil => exact ⟨[], rfl⟩
    | cons part parts ih =>
      obtain ⟨d, rfl⟩ := mem_digit.mp (h part List.mem_cons_self)
      obtain ⟨ds, hds⟩ := ih fun p hp => h p (List.mem_cons_of_mem _ hp)
      exact ⟨d :: ds, congrArg (d.toChar :: ·) hds⟩
  · rintro ⟨ds, rfl⟩
    refine ⟨ds.map fun d => [d.toChar], ?_, fun part hpart => ?_⟩
    · rw [Digits.toChars, ← List.flatMap_def, List.map_eq_flatMap]
    · obtain ⟨d, -, rfl⟩ := List.mem_map.mp hpart
      exact mem_digit.mpr ⟨d, rfl⟩

theorem mem_someDigits : cs ∈ digit * digit∗ ↔ ∃ ds : Digits, ds ≠ [] ∧ ds.toChars = cs := by
  rw [Language.mem_mul]
  constructor
  · rintro ⟨_, hd, _, hds, rfl⟩
    obtain ⟨d, rfl⟩ := mem_digit.mp hd
    obtain ⟨ds, rfl⟩ := mem_digits.mp hds
    exact ⟨d :: ds, List.cons_ne_nil d ds, rfl⟩
  · rintro ⟨ds, hne, rfl⟩
    obtain ⟨d, ds, rfl⟩ := List.exists_cons_of_ne_nil hne
    exact ⟨_, mem_digit.mpr ⟨d, rfl⟩, _, mem_digits.mpr ⟨ds, rfl⟩, rfl⟩

theorem mem_sign : cs ∈ sign ↔ ∃ s : Option Sign, Sign.toChars s = cs := by
  have hset : "+-".toList = ['+', '-'] := by decide
  rw [sign, Language.mem_add, Language.mem_one, mem_oneOf, hset]
  constructor
  · rintro (rfl | ⟨c, hc, rfl⟩)
    · exact ⟨none, rfl⟩
    · rcases List.mem_pair.mp hc with rfl | rfl
      · exact ⟨some .plus, rfl⟩
      · exact ⟨some .minus, rfl⟩
  · rintro ⟨s, rfl⟩
    match s with
    | none => exact Or.inl rfl
    | some .plus => exact Or.inr ⟨'+', List.mem_pair.mpr (Or.inl rfl), rfl⟩
    | some .minus => exact Or.inr ⟨'-', List.mem_pair.mpr (Or.inr rfl), rfl⟩

theorem mem_point : cs ∈ oneOf "." ↔ cs = ['.'] := by
  simp [mem_oneOf]

/-- A point has digits after it unless there are some before it. -/
theorem mem_mantissa : cs ∈ mantissa ↔ ∃ (whole : Digits) (fraction : Option Digits),
    (whole ≠ [] ∨ fraction.getD [] ≠ []) ∧
      whole.toChars ++ Literal.fractionChars fraction = cs := by
  simp only [mantissa, Language.mem_add, Language.mem_mul (l := digit * digit∗),
    Language.mem_mul (l := oneOf "."), Language.mem_one, mem_someDigits, mem_digits, mem_point]
  constructor
  · rintro (⟨_, ⟨whole, hne, rfl⟩, _, rfl | ⟨_, rfl, _, ⟨ds, rfl⟩, rfl⟩, rfl⟩ |
      ⟨_, rfl, _, ⟨ds, hne, rfl⟩, rfl⟩)
    · exact ⟨whole, none, Or.inl hne, rfl⟩
    · exact ⟨whole, some ds, Or.inl hne, rfl⟩
    · exact ⟨[], some ds, Or.inr hne, rfl⟩
  · rintro ⟨whole, fraction, hne, rfl⟩
    by_cases hw : whole = []
    · subst hw
      match fraction with
      | none => simp at hne
      | some ds =>
        have hds : ds ≠ [] := hne.resolve_left fun h => h rfl
        exact Or.inr ⟨['.'], rfl, ds.toChars, ⟨ds, hds, rfl⟩, rfl⟩
    · refine Or.inl ⟨whole.toChars, ⟨whole, hw, rfl⟩, Literal.fractionChars fraction, ?_, rfl⟩
      match fraction with
      | none => exact Or.inl rfl
      | some ds => exact Or.inr ⟨['.'], rfl, ds.toChars, ⟨ds, rfl⟩, rfl⟩

theorem mem_exponent : cs ∈ exponent ↔ ∃ x : Option Exponent,
    (∀ y ∈ x, y.digits ≠ []) ∧ Exponent.toChars x = cs := by
  have hletter : ∀ c, c ∈ "eE".toList ↔ ∃ capital : Bool, (if capital then 'E' else 'e') = c := by
    have hset : "eE".toList = ['e', 'E'] := by decide
    intro c
    rw [hset, List.mem_pair, Bool.exists_bool, eq_comm, @eq_comm _ c 'E']
    rfl
  rw [exponent, Language.mem_add, Language.mem_one, Language.mem_mul]
  constructor
  · rintro (rfl | ⟨_, hmark, _, hds, rfl⟩)
    · exact ⟨none, by simp, rfl⟩
    · obtain ⟨_, ⟨c, hc, rfl⟩, _, hs, rfl⟩ := Language.mem_mul.mp hmark
      obtain ⟨capital, rfl⟩ := (hletter c).mp hc
      obtain ⟨s, rfl⟩ := mem_sign.mp hs
      obtain ⟨ds, hne, rfl⟩ := mem_someDigits.mp hds
      exact ⟨some ⟨capital, s, ds⟩, by simpa using hne, rfl⟩
  · rintro ⟨x, hx, rfl⟩
    match x with
    | none => exact Or.inl rfl
    | some ⟨capital, s, ds⟩ =>
      have hmark := Language.mem_mul.mpr
        ⟨_, mem_oneOf.mpr ⟨_, (hletter _).mpr ⟨capital, rfl⟩, rfl⟩, _, mem_sign.mpr ⟨s, rfl⟩, rfl⟩
      exact Or.inr ⟨_, hmark, _, mem_someDigits.mpr ⟨ds, hx _ rfl, rfl⟩, rfl⟩

end Grammar

/-- The texts of the grammar are those of the well-formed literals. -/
theorem mem_grammar_iff {cs : List Char} :
    cs ∈ grammar ↔ ∃ l : Literal, l.WellFormed ∧ l.toChars = cs := by
  rw [grammar, mul_assoc, Language.mem_mul]
  constructor
  · rintro ⟨_, hs, _, hrest, rfl⟩
    obtain ⟨_, hm, _, hx, rfl⟩ := Language.mem_mul.mp hrest
    obtain ⟨s, rfl⟩ := Grammar.mem_sign.mp hs
    obtain ⟨whole, fraction, hne, rfl⟩ := Grammar.mem_mantissa.mp hm
    obtain ⟨x, hxs, rfl⟩ := Grammar.mem_exponent.mp hx
    refine ⟨⟨s, whole, fraction, x⟩, ⟨hne, hxs⟩, ?_⟩
    rw [Literal.toChars, List.append_assoc]
  · rintro ⟨l, h, rfl⟩
    refine ⟨_, Grammar.mem_sign.mpr ⟨l.sign, rfl⟩, _, Language.mem_mul.mpr ⟨_,
      Grammar.mem_mantissa.mpr ⟨l.whole, l.fraction, h.1, rfl⟩, _,
      Grammar.mem_exponent.mpr ⟨l.exponent, h.2, rfl⟩, rfl⟩, ?_⟩
    rw [Literal.toChars, List.append_assoc]

namespace Literal

variable {l l' : Literal} {token : String}

theorem ofString?_of_toString (h : l.WellFormed) (ht : toString l = token) :
    ofString? token = some l := by
  rw [← ht]
  change ofChars? (String.ofList l.toChars).toList = some l
  rw [String.toList_ofList]
  exact ofChars?_toChars h

theorem toString_of_ofString? (h : ofString? token = some l) : toString l = token := by
  change String.ofList l.toChars = token
  rw [toChars_of_ofChars? h, String.ofList_toList]

/-- The grammar is not ambiguous. -/
theorem eq_of_toString (h : l.WellFormed) (h' : l'.WellFormed) (ht : toString l' = toString l) :
    l' = l := by
  have hl := ofString?_of_toString h rfl
  rw [ofString?_of_toString h' ht] at hl
  exact Option.some.inj hl

theorem mem_grammar_iff_exists :
    token.toList ∈ grammar ↔ ∃ l : Literal, l.WellFormed ∧ toString l = token := by
  rw [mem_grammar_iff]
  refine exists_congr fun l => and_congr_right fun _ => ?_
  change _ ↔ String.ofList l.toChars = token
  rw [← String.toList_inj, String.toList_ofList]

theorem ofString?_eq_none_iff : ofString? token = none ↔ token.toList ∉ grammar := by
  rw [mem_grammar_iff_exists]
  constructor
  · rintro h ⟨l, hl, ht⟩
    rw [ofString?_of_toString hl ht] at h
    cases h
  · intro h
    rw [Option.eq_none_iff_forall_ne_some]
    exact fun l hl => h ⟨l, wellFormed_of_ofChars? hl, toString_of_ofString? hl⟩

theorem isSome_ofString?_iff : (ofString? token).isSome = true ↔ token.toList ∈ grammar := by
  rw [← not_iff_not, Bool.not_eq_true, Option.isSome_eq_false_iff, Option.isNone_iff_eq_none,
    ofString?_eq_none_iff]

instance (token : String) : Decidable (token.toList ∈ grammar) :=
  decidable_of_iff _ isSome_ofString?_iff

example : ".5".toList ∈ grammar ∧ "5.E+07".toList ∈ grammar ∧ ".".toList ∉ grammar ∧
    "1e".toList ∉ grammar ∧ "1_000".toList ∉ grammar := by decide

/-! ### The number that a literal denotes -/

/-- The whole part and the fraction together, times the power of ten, with the sign. -/
def value (l : Literal) : ℚ :=
  let fraction := l.fraction.getD []
  let mantissa : ℚ := l.whole.value + fraction.value / 10 ^ fraction.length
  let size := mantissa * 10 ^ (l.exponent.elim 0 Exponent.value)
  if l.sign = some .minus then -size else size

/-- The digits read without the point make up for it in the power of ten. -/
theorem value_eq (l : Literal) : l.value = if l.sign = some .minus then -l.toRat else l.toRat := by
  have hlen : (10 : ℚ) ^ (l.fraction.getD []).length ≠ 0 := by positivity
  have hsize : ((l.whole.value : ℚ) + (l.fraction.getD []).value /
      10 ^ (l.fraction.getD []).length) * 10 ^ (l.exponent.elim 0 Exponent.value) = l.toRat := by
    rw [toRat, coefficient, digits, power, Digits.value_append, zpow_sub₀ (by norm_num),
      zpow_natCast]
    push_cast
    field_simp
  unfold value
  dsimp only
  rw [hsize]

theorem abs_value (l : Literal) : |l.value| = l.toRat := by
  rw [value_eq]
  split
  · rw [abs_neg, abs_of_nonneg l.toRat_nonneg]
  · rw [abs_of_nonneg l.toRat_nonneg]

theorem isNegative_iff : l.isNegative = true ↔ l.sign = some .minus := by
  simp [isNegative]

/-- A literal denotes zero if all of its digits are zero. -/
theorem toRat_eq_zero_iff : l.toRat = 0 ↔ ∀ d ∈ l.digits, d = .zero := by
  have hnil : l.significantDigits = [] ↔ ∀ d ∈ l.digits, d = .zero := by
    simp [significantDigits, List.dropWhile_eq_nil_iff]
  rw [← hnil]
  constructor
  · intro h
    by_contra hne
    have hpos : (0 : ℚ) < 10 ^ (l.leadingPosition - 1) := by positivity
    exact (hpos.trans_le (le_toRat hne)).ne' h
  · exact toRat_eq_zero

theorem value_eq_zero_iff : l.value = 0 ↔ ∀ d ∈ l.digits, d = .zero := by
  rw [← abs_eq_zero, abs_value, toRat_eq_zero_iff]

/-- A literal is below zero if it has a minus sign and a digit that is not zero. -/
theorem value_neg_iff : l.value < 0 ↔ l.sign = some .minus ∧ ∃ d ∈ l.digits, d ≠ .zero := by
  have hpos : 0 < l.toRat ↔ ∃ d ∈ l.digits, d ≠ .zero := by
    rw [l.toRat_nonneg.lt_iff_ne, ne_comm, Ne, toRat_eq_zero_iff]
    push Not
    rfl
  rw [value_eq, ← hpos]
  split
  · next h => simp [h]
  · next h => simp [h, l.toRat_nonneg]

end Literal

end SIUnits.Decimal
