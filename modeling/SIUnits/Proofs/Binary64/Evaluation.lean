import SIUnits.Binary64.Lemmas

/-! Rounding in a form that is quick to evaluate. Halving a number until nothing is left takes as
many steps as it has bits, some thousand for the steps of a double. Finding its logarithm from the
highest bit on takes a dozen, and gives the same result (`Magnitude.nearest?_eq_quick`). -/
namespace SIUnits

-- Powers are the core ones, whatever algebra is in scope.
attribute [local instance (2000)] instPowNat

/-- The binary logarithm of a number below `2 ^ 2 ^ k`, from its highest bit on. -/
def log2Within : Nat → Nat → Nat
  | 0, _ => 0
  | k + 1, n =>
    if 2 ^ (2 ^ k : Nat) ≤ n then 2 ^ k + log2Within k (n / 2 ^ (2 ^ k : Nat))
    else log2Within k n

theorem log2_eq_add_of_le {n k : Nat} (h : 2 ^ k ≤ n) : n.log2 = k + (n / 2 ^ k).log2 := by
  have hpos := Nat.two_pow_pos k
  have hq : n / 2 ^ k ≠ 0 := Nat.ne_of_gt (Nat.div_pos h hpos)
  obtain ⟨hlow, hhigh⟩ := (Nat.log2_eq_iff hq).mp rfl
  rw [Nat.log2_eq_iff (by omega), Nat.add_assoc, Nat.pow_add, Nat.pow_add]
  constructor
  · rw [Nat.mul_comm]
    exact (Nat.le_div_iff_mul_le hpos).mp hlow
  · rw [Nat.mul_comm]
    exact (Nat.div_lt_iff_lt_mul hpos).mp hhigh

theorem log2Within_eq {k n : Nat} (h : n < 2 ^ (2 ^ k : Nat)) : log2Within k n = n.log2 := by
  induction k generalizing n with
  | zero =>
    have hlt : n < 2 := h
    have hn : n = 0 ∨ n = 1 := by omega
    rcases hn with rfl | rfl <;> decide
  | succ k ih =>
    rw [log2Within]
    split
    case isTrue hle =>
      have hlt : n / 2 ^ (2 ^ k : Nat) < 2 ^ (2 ^ k : Nat) := by
        rw [Nat.div_lt_iff_lt_mul (Nat.two_pow_pos _), ← Nat.pow_add, ← Nat.two_mul,
          ← Nat.pow_succ']
        exact h
      rw [ih hlt, ← log2_eq_add_of_le hle]
    case isFalse hle => exact ih (Nat.lt_of_not_le hle)

theorem log2Within_or_eq (k n : Nat) :
    (if n < 2 ^ (2 ^ k : Nat) then log2Within k n else n.log2) = n.log2 := by
  split
  case isTrue h => exact log2Within_eq h
  case isFalse => rfl

namespace Magnitude

/-- The scale of a rounding, quick for numbers of up to four thousand bits. -/
def quickScaleAt (n d : Nat) : Nat :=
  (if n / d < 2 ^ (2 ^ (12 : Nat) : Nat) then log2Within 12 (n / d) else (n / d).log2) - 52

/-- The size nearest to `n / d` steps, quick for numbers of up to four thousand bits. -/
def quickNearest? (n d : Nat) : Option Magnitude :=
  let scale := quickScaleAt n d
  let significand := roundHalfEven n (d * 2 ^ scale)
  if significand = 2 ^ (53 : Nat) then ofParts? (2 ^ (52 : Nat)) (scale + 1)
  else ofParts? significand scale

theorem quickScaleAt_eq (n d : Nat) : quickScaleAt n d = scaleAt n d := by
  unfold quickScaleAt scaleAt
  rw [log2Within_or_eq 12]

theorem nearest?_eq_quick (n d : Nat) : nearest? n d = quickNearest? n d := by
  unfold nearest? quickNearest?
  rw [quickScaleAt_eq]

end Magnitude

namespace Binary64

/-- Rounding by `Magnitude.quickNearest?`. -/
def quickNearest (n d : Nat) : Binary64 :=
  match Magnitude.quickNearest? n d with
  | some size => .finite false size
  | none => .infinite false

theorem nearest_eq_quick (n d : Nat) : nearest false n d = quickNearest n d := by
  have h := Magnitude.nearest?_eq_quick n d
  unfold nearest quickNearest
  cases hq : Magnitude.quickNearest? n d with
  | none => simp only [h, hq]
  | some x => simp only [h, hq]

theorem quickNearest?_of_finite {n d : Nat} {s : Bool} {x : Magnitude}
    (h : quickNearest n d = .finite s x) : Magnitude.quickNearest? n d = some x := by
  unfold quickNearest at h
  cases hx : Magnitude.quickNearest? n d with
  | none =>
    rw [hx] at h
    cases h
  | some y =>
    rw [hx] at h
    cases h
    rfl

end Binary64

end SIUnits
