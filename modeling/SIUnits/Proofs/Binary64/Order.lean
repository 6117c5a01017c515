import SIUnits.Proofs.Binary64.Rounding

/-! The order of the doubles. Rounding keeps it (`Binary64.round_le_round`), also where the larger
value is beyond the largest double. -/
namespace SIUnits

open Magnitude

namespace Binary64

/-- The steps of a finite double, counted down below zero. -/
def signedSteps (negative : Bool) (size : Magnitude) : ℤ :=
  if negative then -size.steps else size.steps

/-- The comparison of doubles. The two zeros are equal in it, the infinities are its ends, and `nan`
is not comparable to anything. -/
inductive Le : Binary64 → Binary64 → Prop where
  | finite {s t : Bool} {x y : Magnitude} (h : signedSteps s x ≤ signedSteps t y) :
      Le (.finite s x) (.finite t y)
  | bottom {y : Binary64} (h : y ≠ .nan) : Le (.infinite true) y
  | top {x : Binary64} (h : x ≠ .nan) : Le x (.infinite false)

instance : LE Binary64 := ⟨Le⟩

def leBool : Binary64 → Binary64 → Bool
  | .nan, _ | _, .nan => false
  | .infinite true, _ | _, .infinite false => true
  | .finite s x, .finite t y => decide (signedSteps s x ≤ signedSteps t y)
  | _, _ => false

theorem leBool_iff {x y : Binary64} : leBool x y = true ↔ x ≤ y := by
  constructor
  · intro h
    unfold leBool at h
    split at h
    · cases h
    · cases h
    · exact Le.bottom ‹_›
    · exact Le.top ‹_›
    · exact Le.finite (of_decide_eq_true h)
    · cases h
  · rintro (h | h | h)
    · exact decide_eq_true h
    · cases y with
      | nan => exact absurd rfl h
      | finite _ _ | infinite _ => rfl
    · match x with
      | .nan => exact absurd rfl h
      | .finite _ _ | .infinite true | .infinite false => rfl

instance (x y : Binary64) : Decidable (x ≤ y) := decidable_of_iff _ leBool_iff

theorem le_trans {x y z : Binary64} (h : x ≤ y) (h' : y ≤ z) : x ≤ z := by
  cases h with
  | finite h =>
    cases h' with
    | finite h' => exact Le.finite (h.trans h')
    | top _ => exact Le.top (by simp)
  | bottom _ =>
    cases h' with
    | finite _ => exact Le.bottom (by simp)
    | bottom h' => exact Le.bottom h'
    | top _ => exact Le.top (by simp)
  | top h =>
    cases h' with
    | top _ => exact Le.top h

section Finite

variable {s t : Bool} {x y : Magnitude} {v : Binary64}

theorem finite_le_finite_iff :
    (.finite s x : Binary64) ≤ .finite t y ↔ signedSteps s x ≤ signedSteps t y := by
  constructor
  · rintro ⟨h⟩
    exact h
  · intro h
    exact Le.finite h

theorem finite_le_finite :
    (.finite false x : Binary64) ≤ .finite false y ↔ x.toRat ≤ y.toRat := by
  rw [finite_le_finite_iff, toRat_le_toRat]
  exact Nat.cast_le

/-- Between zero and a finite double there are only finite ones. -/
theorem exists_of_zero_le_of_le (h0 : zero ≤ v) (h : v ≤ .finite t y) :
    ∃ s x, v = .finite s x := by
  cases h with
  | finite _ => exact ⟨_, _, rfl⟩
  | bottom _ => cases h0

/-- Of the sizes with a minus sign only the negative zero is not below zero. -/
theorem zero_le_finite_iff :
    zero ≤ .finite s x ↔ (.finite s x : Binary64).isBelowZero = false := by
  have hz : signedSteps false .zero = 0 := rfl
  rw [zero, finite_le_finite_iff, hz]
  cases s with
  | false => simp [signedSteps, isBelowZero]
  | true => simp [signedSteps, isBelowZero, steps_eq_zero]

theorem isBelowZero_of_zero_le (h : zero ≤ v) : v.isBelowZero = false := by
  cases h with
  | finite h => exact zero_le_finite_iff.mp (Le.finite h)
  | top => rfl

theorem isFinite_of_zero_le_of_le {w : Binary64} (h0 : zero ≤ v) (h : v ≤ w)
    (hw : w.isFinite = true) : v.isFinite = true := by
  match w with
  | .infinite _ | .nan => cases hw
  | .finite _ _ =>
    obtain ⟨s, x, rfl⟩ := exists_of_zero_le_of_le h0 h
    rfl

theorem plus_or_zero_of_zero_le (h : zero ≤ .finite s x) : s = false ∨ x = .zero := by
  cases s with
  | false => exact Or.inl rfl
  | true =>
    have hb := zero_le_finite_iff.mp h
    exact Or.inr (eq_zero_of_significand (by simpa [isBelowZero] using hb))

/-- What is not below a size other than zero has a plus sign. -/
theorem plus_of_finite_le (hx : x ≠ .zero) (h : .finite false x ≤ (.finite t y : Binary64)) :
    t = false := by
  cases t with
  | false => rfl
  | true =>
    have hle := finite_le_finite_iff.mp h
    have hpos : x.steps ≠ 0 := fun h0 => hx (eq_zero_of_significand (steps_eq_zero.mp h0))
    simp only [signedSteps, Bool.false_eq_true, if_false, if_true] at hle
    omega

theorem signedZero_le_of_zero_le (s : Bool) (h : zero ≤ v) : .finite s .zero ≤ v := by
  have hs : (.finite s .zero : Binary64) ≤ zero := by
    rw [zero, finite_le_finite_iff]
    cases s <;> rfl
  exact le_trans hs h

end Finite

theorem round_le_infinite (v : ℚ) : round false v ≤ .infinite false := by
  apply Le.top
  unfold round
  cases round? v <;> simp

/-- Rounding keeps the order. -/
theorem round_le_round {v w : ℚ} (hv : 0 ≤ v) (h : v ≤ w) : round false v ≤ round false w := by
  by_cases hw : overflowBound ≤ w
  · rw [round_eq_infinite false (hv.trans h) hw]
    exact round_le_infinite v
  · obtain ⟨x, hx, hxn⟩ := round_eq_finite false hv (h.trans_lt (not_le.mp hw))
    obtain ⟨y, hy, hyn⟩ := round_eq_finite false (hv.trans h) (not_le.mp hw)
    rw [hx, hy, finite_le_finite]
    exact hxn.mono hyn h

end Binary64

end SIUnits
