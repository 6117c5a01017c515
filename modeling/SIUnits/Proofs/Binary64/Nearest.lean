import SIUnits.Proofs.Binary64.Value

/-! What it means for a double to be nearest to a rational. Main statements: `Magnitude.nearest?`
gives the size nearest to the exact value, ties to even (`isNearest_of_nearest?`), it gives none
from half a unit above the largest double on (`nearest?_eq_none_iff`), and a value has one nearest
size (`IsNearest.unique`). -/
namespace SIUnits

-- Powers are the core ones, whatever algebra is in scope.
attribute [local instance (2000)] instPowNat

/-! ### Rounding to the natural numbers -/

/-- The part of a quotient beyond its floor, with the two comparisons that rounding makes. -/
private theorem exists_rest (n : ℕ) {d : ℕ} (hd : 0 < d) :
    ∃ w : ℚ, (n : ℚ) / d = (n / d : ℕ) + w ∧ 0 ≤ w ∧ w < 1 ∧
      (2 * (n % d) < d ↔ w < 1 / 2) ∧ (d < 2 * (n % d) ↔ 1 / 2 < w) := by
  have hdq : (0 : ℚ) < d := by exact_mod_cast hd
  have hn : (n : ℚ) = d * (n / d : ℕ) + (n % d : ℕ) := by
    exact_mod_cast (Nat.div_add_mod n d).symm
  refine ⟨((n % d : ℕ) : ℚ) / d, ?_, by positivity, ?_, ?_, ?_⟩
  · field_simp
    linarith
  · rw [div_lt_one hdq]
    exact_mod_cast Nat.mod_lt n hd
  · rw [div_lt_iff₀ hdq, ← Nat.cast_lt (α := ℚ)]
    push_cast
    constructor <;> intro h <;> linarith
  · rw [lt_div_iff₀ hdq, ← Nat.cast_lt (α := ℚ)]
    push_cast
    constructor <;> intro h <;> linarith

theorem roundHalfEven_error (n : ℕ) {d : ℕ} (hd : 0 < d) :
    |(roundHalfEven n d : ℚ) - n / d| ≤ 1 / 2 := by
  obtain ⟨w, hw, hw0, hw1, hlow, hhigh⟩ := exists_rest n hd
  unfold roundHalfEven
  dsimp only
  rw [hw, abs_le]
  split_ifs with h h'
  · have := hlow.mp h
    constructor <;> linarith
  · have := hhigh.mp h'
    push_cast
    constructor <;> linarith
  · have hl := not_lt.mp (mt hlow.mpr h)
    have hh := not_lt.mp (mt hhigh.mpr h')
    have hp : ((n / d % 2 : ℕ) : ℚ) ≤ 1 := by exact_mod_cast (show n / d % 2 ≤ 1 by omega)
    have hp0 : (0 : ℚ) ≤ ((n / d % 2 : ℕ) : ℚ) := by positivity
    push_cast
    constructor <;> linarith

/-- Half a unit away lies only what the tie rule chose. -/
theorem roundHalfEven_even {n d : ℕ} (hd : 0 < d)
    (h : |(roundHalfEven n d : ℚ) - n / d| = 1 / 2) : roundHalfEven n d % 2 = 0 := by
  obtain ⟨w, hw, hw0, hw1, hlow, hhigh⟩ := exists_rest n hd
  revert h
  unfold roundHalfEven
  dsimp only
  rw [hw]
  split_ifs with h h'
  · have := hlow.mp h
    rw [sub_add_cancel_left, abs_neg, abs_of_nonneg hw0]
    intro he
    linarith
  · have := hhigh.mp h'
    push_cast
    rw [add_sub_add_left_eq_sub, abs_of_nonneg (by linarith)]
    intro he
    linarith
  · intro _
    omega

/-- If one natural number is at most half a unit away, every other is at least that far. -/
theorem half_le_of_ne {m k : ℕ} {w : ℚ} (hm : |(m : ℚ) - w| ≤ 1 / 2) (hk : k ≠ m) :
    1 / 2 ≤ |(k : ℚ) - w| := by
  rw [abs_le] at hm
  rcases Nat.lt_or_gt_of_ne hk with h | h
  · have : (k : ℚ) + 1 ≤ m := by exact_mod_cast h
    exact le_abs.mpr (Or.inr (by linarith))
  · have : (m : ℚ) + 1 ≤ k := by exact_mod_cast h
    exact le_abs.mpr (Or.inl (by linarith))

theorem roundHalfEven_nearest (n : ℕ) {d : ℕ} (hd : 0 < d) (k : ℕ) :
    |(roundHalfEven n d : ℚ) - n / d| ≤ |(k : ℚ) - n / d| := by
  have he := roundHalfEven_error n hd
  by_cases hk : k = roundHalfEven n d
  · rw [hk]
  · exact he.trans (half_le_of_ne he hk)

namespace Magnitude

/-! ### The scale and the significand that rounding finds -/

theorem le_of_scaleAt_ne_zero {n d : ℕ} (hd : 0 < d) (h : scaleAt n d ≠ 0) :
    2 ^ (52 + scaleAt n d) * d ≤ n := by
  have hlog : 52 + scaleAt n d = (n / d).log2 := by unfold scaleAt at h ⊢; omega
  have hq : n / d ≠ 0 := by
    intro hz
    rw [hz, Nat.log2_zero] at hlog
    omega
  rw [hlog, ← Nat.le_div_iff_mul_le hd]
  exact Nat.log2_self_le hq

theorem lt_scaleAt (n : ℕ) {d : ℕ} (hd : 0 < d) : n < 2 ^ (53 + scaleAt n d) * d := by
  have hlog : (n / d).log2 + 1 ≤ 53 + scaleAt n d := by unfold scaleAt; omega
  rw [← Nat.div_lt_iff_lt_mul hd]
  exact Nat.lt_log2_self.trans_le (Nat.pow_le_pow_right (by decide) hlog)

/-- The significand before a carry. -/
def significandAt (n d : ℕ) : ℕ := roundHalfEven n (d * 2 ^ scaleAt n d)

theorem significandAt_le (n : ℕ) {d : ℕ} (hd : 0 < d) : significandAt n d ≤ 2 ^ 53 := by
  have hlt : n / (d * 2 ^ scaleAt n d) < 2 ^ 53 := by
    rw [Nat.div_lt_iff_lt_mul (Nat.mul_pos hd (two_pow_pos _)), Nat.mul_left_comm,
      Nat.mul_comm d, ← Nat.pow_add]
    exact lt_scaleAt n hd
  unfold significandAt
  rcases roundHalfEven_eq_or n (d * 2 ^ scaleAt n d) with h | h <;> omega

theorem le_significandAt {n d : ℕ} (hd : 0 < d) (h : scaleAt n d ≠ 0) :
    2 ^ 52 ≤ significandAt n d := by
  have hle : 2 ^ 52 ≤ n / (d * 2 ^ scaleAt n d) := by
    rw [Nat.le_div_iff_mul_le (Nat.mul_pos hd (two_pow_pos _)), Nat.mul_left_comm,
      Nat.mul_comm d, ← Nat.pow_add]
    exact le_of_scaleAt_ne_zero hd h
  unfold significandAt
  rcases roundHalfEven_eq_or n (d * 2 ^ scaleAt n d) with h | h <;> omega

theorem ofParts?_eq_none_iff {m k : ℕ} :
    ofParts? m k = none ↔ ¬(m < 2 ^ 53 ∧ k ≤ 2045 ∧ (k = 0 ∨ 2 ^ 52 ≤ m)) := by
  unfold ofParts?
  split_ifs with h <;> simp [h]

theorem ofParts?_significand {m k : ℕ} {x : Magnitude} (h : ofParts? m k = some x) :
    x.significand = m := by
  unfold ofParts? at h
  split_ifs at h
  cases h
  rfl

/-- A carry moves the rounded value to the next scale and leaves it the same. -/
theorem steps_of_nearest? {n d : ℕ} {x : Magnitude} (h : nearest? n d = some x) :
    x.steps = significandAt n d * 2 ^ scaleAt n d := by
  unfold nearest? at h
  dsimp only at h
  split_ifs at h with hc
  · rw [ofParts?_steps h, significandAt, hc, Nat.pow_succ]
    omega
  · exact ofParts?_steps h

theorem even_of_nearest? {n d : ℕ} {x : Magnitude} (h : nearest? n d = some x)
    (he : significandAt n d % 2 = 0) : x.significand % 2 = 0 := by
  unfold nearest? at h
  dsimp only at h
  split_ifs at h with hc
  · rw [ofParts?_significand h]
  · rw [ofParts?_significand h]
    exact he

theorem nearest?_eq_none_iff_parts (n : ℕ) {d : ℕ} (hd : 0 < d) :
    nearest? n d = none ↔
      2045 < scaleAt n d ∨ scaleAt n d = 2045 ∧ significandAt n d = 2 ^ 53 := by
  have hle := significandAt_le n hd
  have hge := @le_significandAt n d hd
  unfold nearest?
  dsimp only
  split_ifs with hc
  · rw [ofParts?_eq_none_iff]
    have : significandAt n d = 2 ^ 53 := hc
    omega
  · have : significandAt n d ≠ 2 ^ 53 := hc
    change ofParts? (significandAt n d) (scaleAt n d) = none ↔ _
    rw [ofParts?_eq_none_iff]
    omega

/-! ### The bound from which on rounding overflows -/

/-- Half a unit above the largest double. -/
def overflowBound : ℚ := 2 ^ 1024 - 2 ^ 970

theorem overflowBound_mul : overflowBound * stepsInOne * 2 = (2 ^ 54 - 1) * 2 ^ 2045 := by
  have h1 : (2 : ℚ) ^ 1024 = 2 ^ 54 * 2 ^ 970 := pow_add 2 54 970
  have h2 : (2 : ℚ) ^ 2045 = 2 ^ 970 * 2 ^ 1074 * 2 := by
    rw [← pow_add]; exact pow_succ 2 2044
  rw [overflowBound, stepsInOne_cast, h1, h2]
  generalize (2 : ℚ) ^ 970 = a
  generalize (2 : ℚ) ^ 1074 = b
  ring

/-- The bound in half steps, on the coarsest lattice. -/
theorem overflowBound_le_iff (n : ℕ) {d k : ℕ} (hd : 0 < d) (hk : k = 2045) :
    overflowBound ≤ n / d / stepsInOne ↔ (2 ^ 54 - 1) * 2 ^ k * d ≤ 2 * n := by
  have hdq : (0 : ℚ) < d := by exact_mod_cast hd
  have hcast : (((2 ^ 54 - 1) * 2 ^ k * d : ℕ) : ℚ) = overflowBound * stepsInOne * 2 * d := by
    rw [overflowBound_mul, ← hk, Nat.cast_mul, Nat.cast_mul, two_pow_cast]
    norm_num
  rw [le_div_iff₀ stepsInOne_cast_pos, le_div_iff₀ hdq, ← Nat.cast_le (α := ℚ), hcast]
  push_cast
  constructor <;> intro h <;> linarith

/-- The significand carries from half a unit below the carry on: the tie goes up because the
largest significand is odd. -/
private theorem carry_iff {m : ℕ} {w : ℚ} (hm : m ≤ 2 ^ 53) (he : |(m : ℚ) - w| ≤ 1 / 2)
    (hev : |(m : ℚ) - w| = 1 / 2 → m % 2 = 0) : m = 2 ^ 53 ↔ 2 ^ 54 - 1 ≤ 2 * w := by
  have hb := abs_le.mp he
  constructor
  · rintro rfl
    push_cast at hb
    linarith
  · intro hw
    by_contra hne
    have hle : (m : ℚ) ≤ 2 ^ 53 - 1 := by
      have : m + 1 ≤ 2 ^ 53 := by omega
      have : (m : ℚ) + 1 ≤ 2 ^ 53 := by exact_mod_cast this
      linarith
    have hm' : (m : ℚ) = 2 ^ 53 - 1 := by linarith
    have hpar : m % 2 = 0 := by
      apply hev
      rw [abs_of_nonpos (by linarith)]
      linarith
    have : m + 1 = 2 ^ 53 := by exact_mod_cast (show (m : ℚ) + 1 = 2 ^ 53 by linarith)
    omega

/-- The rounded value lies beyond the scale `k` exactly from half a unit above its largest point
on. -/
theorem scaleAt_beyond_iff (n : ℕ) {d : ℕ} (hd : 0 < d) (k : ℕ) :
    (k < scaleAt n d ∨ scaleAt n d = k ∧ significandAt n d = 2 ^ 53) ↔
      (2 ^ 54 - 1) * 2 ^ k * d ≤ 2 * n := by
  have hpow : ∀ a b, 2 ^ (a + b) * d = 2 ^ a * (2 ^ b * d) := fun a b => by
    rw [Nat.pow_add, Nat.mul_assoc]
  have hpos : 0 < 2 ^ k * d := Nat.mul_pos (two_pow_pos _) hd
  rw [Nat.mul_assoc]
  rcases lt_trichotomy (scaleAt n d) k with hk | rfl | hk
  · have hle : 2 ^ (53 + scaleAt n d) ≤ 2 ^ (52 + k) := Nat.pow_le_pow_right (by decide) (by omega)
    have hlt := (lt_scaleAt n hd).trans_le (Nat.mul_le_mul_right d hle)
    rw [hpow] at hlt
    omega
  · have hd' : 0 < d * 2 ^ scaleAt n d := Nat.mul_pos hd (two_pow_pos _)
    have hdq : (0 : ℚ) < (d * 2 ^ scaleAt n d : ℕ) := by exact_mod_cast hd'
    have hcarry := carry_iff (significandAt_le n hd) (roundHalfEven_error n hd')
      (roundHalfEven_even hd')
    rw [mul_div_assoc', le_div_iff₀ hdq] at hcarry
    have hcast : ((2 : ℚ) ^ 54 - 1) * (d * 2 ^ scaleAt n d : ℕ) ≤ 2 * n ↔
        (2 ^ 54 - 1) * (2 ^ scaleAt n d * d) ≤ 2 * n := by
      rw [← Nat.cast_le (α := ℚ), Nat.mul_comm d]
      norm_num
    rw [hcast] at hcarry
    simp only [lt_irrefl, false_or, true_and]
    exact hcarry
  · have hle : 2 ^ (53 + k) ≤ 2 ^ (52 + scaleAt n d) := Nat.pow_le_pow_right (by decide) (by omega)
    have hge := (Nat.mul_le_mul_right d hle).trans (le_of_scaleAt_ne_zero hd (by omega))
    rw [hpow] at hge
    omega

/-- There is no nearest size from the bound on. -/
theorem nearest?_eq_none_iff (n : ℕ) {d : ℕ} (hd : 0 < d) :
    nearest? n d = none ↔ overflowBound ≤ n / d / stepsInOne := by
  obtain ⟨k, hk⟩ : ∃ k, k = 2045 := ⟨_, rfl⟩
  rw [nearest?_eq_none_iff_parts n hd, overflowBound_le_iff n hd hk, ← hk]
  exact scaleAt_beyond_iff n hd k

/-! ### The nearest size -/

/-- The size is nearest to `v` among all, and of two equally near ones it has the even significand;
`v` is not so large that rounding overflows. -/
structure IsNearest (v : ℚ) (x : Magnitude) : Prop where
  lt_bound : v < overflowBound
  closest (y : Magnitude) : |x.toRat - v| ≤ |y.toRat - v|
  even (y : Magnitude) : y ≠ x → |y.toRat - v| = |x.toRat - v| → x.significand % 2 = 0

/-- Distances on the lattice of a scale are those of whole numbers. -/
private theorem abs_lattice_sub (m k n : ℕ) {d : ℕ} (hd : 0 < d) :
    |((m * 2 ^ k : ℕ) : ℚ) - n / d| = |(m : ℚ) - n / (d * 2 ^ k : ℕ)| * 2 ^ k := by
  have hdq : (0 : ℚ) < d := by exact_mod_cast hd
  have hk : (0 : ℚ) < 2 ^ k := by positivity
  rw [← abs_of_pos hk, ← abs_mul]
  congr 1
  rw [Nat.cast_mul, Nat.cast_mul, two_pow_cast]
  field_simp

/-- The rounded value is half a unit of its scale away at most. -/
theorem abs_steps_sub_le {n d : ℕ} (hd : 0 < d) {x : Magnitude} (h : nearest? n d = some x) :
    |(x.steps : ℚ) - n / d| ≤ 2 ^ scaleAt n d / 2 := by
  have hd' : 0 < d * 2 ^ scaleAt n d := Nat.mul_pos hd (two_pow_pos _)
  have hk : (0 : ℚ) < 2 ^ scaleAt n d := by positivity
  rw [steps_of_nearest? h, abs_lattice_sub _ _ _ hd, significandAt]
  nlinarith [roundHalfEven_error n hd']

theorem isNearest_of_nearest? {n d : ℕ} (hd : 0 < d) {x : Magnitude}
    (h : nearest? n d = some x) : IsNearest (n / d / stepsInOne) x := by
  have hd' : 0 < d * 2 ^ scaleAt n d := Nat.mul_pos hd (two_pow_pos _)
  have hk : (0 : ℚ) < 2 ^ scaleAt n d := by positivity
  have hx := abs_lattice_sub (significandAt n d) (scaleAt n d) n hd
  rw [← steps_of_nearest? h] at hx
  -- A size off the lattice is farther away than the first normal point, which is on it.
  have hoff : ∀ y : Magnitude, y.scale < scaleAt n d → y.steps < 2 ^ (52 + scaleAt n d) →
      |(x.steps : ℚ) - n / d| < |(y.steps : ℚ) - n / d| := by
    intro y hs hlt
    have hdq : (0 : ℚ) < d := by exact_mod_cast hd
    have hfirst : ((2 ^ (52 + scaleAt n d) : ℕ) : ℚ) ≤ n / d := by
      rw [le_div_iff₀ hdq]
      exact_mod_cast le_of_scaleAt_ne_zero hd (by omega)
    have hylt : (y.steps : ℚ) < (2 ^ (52 + scaleAt n d) : ℕ) := by exact_mod_cast hlt
    have hnear := roundHalfEven_nearest n hd' (2 ^ 52)
    have hpoint := abs_lattice_sub (2 ^ 52) (scaleAt n d) n hd
    rw [← Nat.pow_add, abs_of_nonpos (by linarith)] at hpoint
    rw [hx, abs_of_nonpos (show (y.steps : ℚ) - n / d ≤ 0 by linarith)]
    have := mul_le_mul_of_nonneg_right hnear hk.le
    unfold significandAt
    linarith
  refine ⟨?_, fun y => ?_, fun y hne he => ?_⟩
  · rw [← not_le, ← nearest?_eq_none_iff n hd, h]
    simp
  · rw [abs_toRat_sub, abs_toRat_sub]
    refine div_le_div_of_nonneg_right ?_ stepsInOne_cast_pos.le
    rcases y.steps_eq_mul_or_lt (scaleAt n d) with ⟨m, hm⟩ | ⟨hs, hlt⟩
    · rw [hx, hm, abs_lattice_sub _ _ _ hd]
      exact mul_le_mul_of_nonneg_right (roundHalfEven_nearest n hd' m) hk.le
    · exact (hoff y hs hlt).le
  · rw [abs_toRat_sub, abs_toRat_sub, div_left_inj' stepsInOne_cast_pos.ne'] at he
    rcases y.steps_eq_mul_or_lt (scaleAt n d) with ⟨m, hm⟩ | ⟨hs, hlt⟩
    · rw [hx, hm, abs_lattice_sub _ _ _ hd, mul_left_inj' hk.ne'] at he
      have hmne : m ≠ significandAt n d := by
        rintro rfl
        exact hne (steps_injective (hm.trans (steps_of_nearest? h).symm))
      have herr := roundHalfEven_error n hd'
      have hhalf := half_le_of_ne herr hmne
      exact even_of_nearest? h (roundHalfEven_even hd' (le_antisymm herr (he ▸ hhalf)))
    · exact absurd he (hoff y hs hlt).ne'

/-- The next point after an even significand is a size, since only the largest significand carries,
and it is odd. -/
private theorem exists_next {x : Magnitude} (h : x.significand % 2 = 0) :
    ∃ z : Magnitude, z.steps = x.steps + 2 ^ x.scale ∧ z.significand % 2 = 1 := by
  have hlt := x.significand_lt
  have hn := x.normal
  refine ⟨⟨x.significand + 1, x.scale, by omega, x.scale_le, by omega⟩, ?_, by dsimp only; omega⟩
  unfold steps
  dsimp only
  rw [Nat.add_mul, Nat.one_mul]

/-- Of two nearest sizes none is the smaller: an odd point would lie between them. -/
private theorem IsNearest.not_steps_lt {v : ℚ} {x y : Magnitude} (hx : IsNearest v x)
    (hy : IsNearest v y) : ¬ x.steps < y.steps := by
  intro hlt
  have hne : y ≠ x := by rintro rfl; exact hlt.false
  have heq : |y.toRat - v| = |x.toRat - v| := le_antisymm (hy.closest x) (hx.closest y)
  obtain ⟨z, hz, hodd⟩ := exists_next (hx.even y hne heq)
  have hle := steps_add_le hlt
  have hpos := two_pow_pos x.scale
  have hxz : x.toRat < z.toRat := toRat_lt_toRat.mpr (by omega)
  have hzy : z.toRat ≠ y.toRat := by
    intro h
    have hey := hy.even x hne.symm heq.symm
    rw [← toRat_injective h] at hey
    omega
  have hzy' : z.toRat < y.toRat := lt_of_le_of_ne (toRat_le_toRat.mpr (by omega)) hzy
  have hcl := hx.closest z
  have hxy : x.toRat < y.toRat := hxz.trans hzy'
  rcases abs_cases (x.toRat - v) with ⟨hax, _⟩ | ⟨hax, _⟩ <;>
    rcases abs_cases (y.toRat - v) with ⟨hay, _⟩ | ⟨hay, _⟩ <;>
    rcases abs_cases (z.toRat - v) with ⟨haz, _⟩ | ⟨haz, _⟩ <;> linarith

theorem IsNearest.unique {v : ℚ} {x y : Magnitude} (hx : IsNearest v x) (hy : IsNearest v y) :
    x = y :=
  steps_injective (le_antisymm (not_lt.mp (hy.not_steps_lt hx)) (not_lt.mp (hx.not_steps_lt hy)))

/-- Rounding keeps the order. -/
theorem IsNearest.mono {v w : ℚ} {x y : Magnitude} (hx : IsNearest v x) (hy : IsNearest w y)
    (h : v ≤ w) : x.toRat ≤ y.toRat := by
  rcases h.eq_or_lt with rfl | h
  · rw [hx.unique hy]
  by_contra hlt
  have hxy := hx.closest y
  have hyx := hy.closest x
  rcases abs_cases (x.toRat - v) with ⟨hax, _⟩ | ⟨hax, _⟩ <;>
    rcases abs_cases (y.toRat - v) with ⟨hay, _⟩ | ⟨hay, _⟩ <;>
    rcases abs_cases (x.toRat - w) with ⟨hbx, _⟩ | ⟨hbx, _⟩ <;>
    rcases abs_cases (y.toRat - w) with ⟨hby, _⟩ | ⟨hby, _⟩ <;> linarith

end Magnitude

end SIUnits
