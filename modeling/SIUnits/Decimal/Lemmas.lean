import SIUnits.Binary64.Lemmas
import SIUnits.Decimal.Literal
import SIUnits.Decimal.Shortest

/-! Facts about numerals, literals and shortest decimals. Main statements: a numeral denotes the
number that it was written for (`Digits.value_ofNat`), a well-formed literal is read back from its
text (`Literal.ofChars?_toChars`) and a text is the text of the literal read from it
(`Literal.toChars_of_ofChars?`), and the shortest decimal reads back
(`Magnitude.readsBack_shortestPoint`). -/
namespace SIUnits

-- Powers are the core ones, whatever algebra is in scope.
attribute [local instance (2000)] instPowNat

namespace Decimal

namespace Digits

theorem value_append_singleton (ds : Digits) (d : Digit) :
    value (ds ++ [d]) = 10 * value ds + d.val := by
  simp [value, List.foldl_append]

theorem value_ofNatWithin {width n : Nat} (h : n < 10 ^ width) :
    value (ofNatWithin width n) = n := by
  induction width generalizing n with
  | zero => simp at h; simp [ofNatWithin, value, h]
  | succ width ih =>
    simp only [ofNatWithin]
    split
    · simp [value]; omega
    · have hq : n / 10 < 10 ^ width := by rw [Nat.pow_succ] at h; omega
      rw [value_append_singleton, ih hq]
      dsimp only
      omega

theorem value_ofNat (n : Nat) : value (ofNat n) = n := by
  refine value_ofNatWithin ?_
  calc n < 2 ^ (n.log2 + 1) := Nat.lt_log2_self
    _ ≤ 10 ^ (n.log2 + 1) := Nat.pow_le_pow_left (by decide) _

theorem ofNatWithin_ne_nil (width n : Nat) : ofNatWithin (width + 1) n ≠ [] := by
  simp only [ofNatWithin]
  split <;> simp

theorem ofNat_ne_nil (n : Nat) : ofNat n ≠ [] := ofNatWithin_ne_nil _ _

/-- The text does not go on with a digit. -/
def NoDigit (cs : List Char) : Prop := ∀ c ∈ cs.head?, Digit.ofChar? c = none

theorem scan_of_noDigit {cs : List Char} (h : NoDigit cs) : scan cs = ([], cs) := by
  cases cs with
  | nil => rfl
  | cons c cs => simp [scan, h c rfl]

theorem scan_toChars_append (ds : Digits) {cs : List Char} (h : NoDigit cs) :
    scan (ds.toChars ++ cs) = (ds, cs) := by
  induction ds with
  | nil => exact scan_of_noDigit h
  | cons d ds ih =>
    have ih' : scan (List.map Digit.toChar ds ++ cs) = (ds, cs) := ih
    simp [toChars, scan, Digit.ofChar?_toChar, ih']

/-- Nothing is lost in scanning. -/
theorem toChars_scan (cs : List Char) : (scan cs).1.toChars ++ (scan cs).2 = cs := by
  induction cs with
  | nil => rfl
  | cons c cs ih =>
    simp only [scan]
    split
    · next d hd =>
      have hc : d.toChar = c := by
        unfold Digit.ofChar? at hd
        split at hd
        · next hr =>
          cases hd
          simp only [Digit.toChar]
          rw [show 48 + (c.toNat - 48) = c.toNat by omega]
          exact Char.ofNat_toNat c
        · cases hd
      have ih' : List.map Digit.toChar (scan cs).1 ++ (scan cs).2 = cs := ih
      simp [toChars, hc, ih']
    · rfl

end Digits

namespace Sign

theorem toChars_scan? (cs : List Char) : toChars (scan? cs).1 ++ (scan? cs).2 = cs := by
  unfold scan?; split <;> rfl

/-- The text does not start with a sign. -/
def NoSign (cs : List Char) : Prop := ∀ c ∈ cs.head?, c ≠ '+' ∧ c ≠ '-'

theorem scan?_toChars_append (s : Option Sign) {cs : List Char} (h : NoSign cs) :
    scan? (toChars s ++ cs) = (s, cs) := by
  match s, cs with
  | some .plus, _ => rfl
  | some .minus, _ => rfl
  | none, [] => rfl
  | none, c :: cs =>
    have := h c rfl
    simp only [toChars, List.nil_append]
    unfold scan?
    split <;> simp_all

end Sign

theorem Digit.noSign (d : Digit) : d.toChar ≠ '+' ∧ d.toChar ≠ '-' := by
  revert d; decide

theorem Digits.noSign_toChars_append {ds : Digits} {cs : List Char} (h : ds = [] → Sign.NoSign cs) :
    Sign.NoSign (ds.toChars ++ cs) := by
  cases ds with
  | nil => exact h rfl
  | cons d ds => intro c hc; cases hc; exact d.noSign

theorem Digits.noSign_toChars (ds : Digits) : Sign.NoSign ds.toChars := by
  have := @Digits.noSign_toChars_append ds [] (fun _ _ h => by cases h)
  rwa [List.append_nil] at this

namespace Exponent

theorem noDigit_toChars (x : Option Exponent) : Digits.NoDigit (toChars x) := by
  match x with
  | none => intro c h; cases h
  | some x => intro c h; cases h; cases x.capital <;> decide

theorem toChars_scan? (cs : List Char) : toChars (scan? cs).1 ++ (scan? cs).2 = cs := by
  cases cs with
  | nil => rfl
  | cons c cs =>
    simp only [scan?]
    split
    · next h =>
      have hc : (if c = 'E' then 'E' else 'e') = c := by
        rcases h with rfl | rfl <;> decide
      have hs := Sign.toChars_scan? cs
      have hd := Digits.toChars_scan (Sign.scan? cs).2
      simp only [toChars, decide_eq_true_eq, hc, List.cons_append, List.append_assoc, hd, hs]
    · rfl

theorem scan?_toChars {x : Option Exponent} : scan? (toChars x) = (x, []) := by
  match x with
  | none => rfl
  | some ⟨capital, sign, digits⟩ =>
    have hd : Digits.scan digits.toChars = (digits, []) := by
      have := @Digits.scan_toChars_append digits [] (fun _ h => by cases h)
      rwa [List.append_nil] at this
    cases capital <;>
      simp [toChars, scan?, Sign.scan?_toChars_append sign digits.noSign_toChars, hd]

end Exponent

namespace Literal

theorem fractionChars_scanFraction? (cs : List Char) :
    fractionChars (scanFraction? cs).1 ++ (scanFraction? cs).2 = cs := by
  unfold scanFraction?
  split
  · next cs => simp [fractionChars, Digits.toChars_scan]
  · rfl

theorem scanFraction?_fractionChars_append (f : Option Digits) (x : Option Exponent) :
    scanFraction? (fractionChars f ++ Exponent.toChars x) = (f, Exponent.toChars x) := by
  match f, x with
  | none, none => rfl
  | none, some ⟨capital, _, _⟩ => cases capital <;> rfl
  | some ds, x =>
    simp [fractionChars, scanFraction?, Digits.scan_toChars_append ds (Exponent.noDigit_toChars x)]

/-- Nothing but a literal's own text is read as the literal. -/
theorem toChars_of_ofChars? {cs : List Char} {l : Literal} (h : ofChars? cs = some l) :
    l.toChars = cs := by
  unfold ofChars? at h
  dsimp only at h
  split at h
  · next hend =>
    rw [← Option.some.inj h]
    simp only [toChars]
    have hx := Exponent.toChars_scan? (scanFraction? (Digits.scan (Sign.scan? cs).2).2).2
    rw [hend.1, List.append_nil] at hx
    rw [hx, fractionChars_scanFraction?, Digits.toChars_scan, Sign.toChars_scan?]
  · cases h

theorem wellFormed_of_ofChars? {cs : List Char} {l : Literal} (h : ofChars? cs = some l) :
    l.WellFormed := by
  unfold ofChars? at h
  dsimp only at h
  split at h
  · next hend => rw [← Option.some.inj h]; exact hend.2
  · cases h

/-- A literal is read back from its text. -/
theorem ofChars?_toChars {l : Literal} (h : l.WellFormed) : ofChars? l.toChars = some l := by
  obtain ⟨sign, whole, fraction, exponent⟩ := l
  have hdigit : Digits.NoDigit (fractionChars fraction ++ Exponent.toChars exponent) := by
    match fraction with
    | none => exact Exponent.noDigit_toChars exponent
    | some ds => intro c hc; cases hc; decide
  have hsign : Sign.NoSign
      (whole.toChars ++ (fractionChars fraction ++ Exponent.toChars exponent)) := by
    refine Digits.noSign_toChars_append fun hw => ?_
    match fraction with
    | none => exact absurd h.1 (by simp [hw])
    | some ds => intro c hc; cases hc; decide
  simp [ofChars?, toChars, Sign.scan?_toChars_append sign hsign,
    Digits.scan_toChars_append whole hdigit, scanFraction?_fractionChars_append,
    Exponent.scan?_toChars, h]

end Literal

end Decimal

namespace Magnitude

theorem readsBack_of_onGrid? {x : Magnitude} {i c : Nat} (h : x.onGrid? i = some c) :
    x.ReadsBack c i := by
  unfold onGrid? at h
  dsimp only at h
  split at h
  · next hlow =>
    split at h
    · next hhigh =>
      rw [← Option.some.inj h]
      rcases roundHalfEven_eq_or x.decimalSteps (10 ^ i) with he | he <;> rw [he] <;> assumption
    · rw [← Option.some.inj h]; exact hlow
  · split at h
    · next hhigh => rw [← Option.some.inj h]; exact hhigh
    · cases h

/-- The search stops at a decimal that reads back, whether it found a grid or ended on the last. -/
theorem readsBack_shortestPoint (x : Magnitude) :
    x.ReadsBack x.shortestPoint.1 x.shortestPoint.2 := by
  unfold shortestPoint
  dsimp only
  generalize (List.range x.coarsestGrid).reverse.map (· + 1) = grids
  cases h : grids.findSome? fun i => (x.onGrid? i).map (·, i) with
  | none =>
    simp only [Option.getD_none, ReadsBack, Nat.pow_zero, Nat.mul_one, decimalSteps]
    rw [Nat.mul_comm]; exact nearest?_steps x decimalRatio_pos
  | some point =>
    obtain ⟨i, _, hi⟩ := List.exists_of_findSome?_eq_some h
    obtain ⟨c, hc, rfl⟩ := Option.map_eq_some_iff.1 hi
    exact readsBack_of_onGrid? hc

end Magnitude

end SIUnits
