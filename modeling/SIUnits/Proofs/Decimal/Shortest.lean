import Mathlib.Algebra.Order.Group.Pointwise.Interval
import SIUnits.Proofs.Binary64.Halfway
import SIUnits.Proofs.Decimal.ReadBack

/-! The decimal that a double is written as is the shortest that reads back, and the closest of
those (`Magnitude.isShortest_shortest`). What reads back is an interval around the double, so a grid
that has a point in it has a neighbour of the double in it (`onGrid?_ne_none`), and no power of ten
beyond the coarsest of these grids is in it. -/
namespace SIUnits

-- Powers are the core ones, whatever algebra is in scope.
attribute [local instance (2000)] instPowNat

namespace Magnitude

/-- The decimal `c * 10 ^ e` rounds to the size, no decimal with fewer digits does, and none with as
many digits that does is closer. -/
structure IsShortest (x : Magnitude) (c : ℕ) (e : ℤ) : Prop where
  rounds : IsNearest (c * 10 ^ e) x
  fewest (k c' : ℕ) (e' : ℤ) : c' < 10 ^ k → IsNearest (c' * 10 ^ e') x → c < 10 ^ k
  closest (k c' : ℕ) (e' : ℤ) : 10 ^ k ≤ c → c' < 10 ^ (k + 1) → IsNearest (c' * 10 ^ e') x →
    |c * 10 ^ e - x.toRat| ≤ |c' * 10 ^ e' - x.toRat|

variable {x : Magnitude} {c c' i j : ℕ} {e e' : ℤ}

theorem IsNearest.coefficient_ne_zero (h : IsNearest (c * 10 ^ e) x) (hx : x ≠ zero) : c ≠ 0 := by
  rintro rfl
  rw [Nat.cast_zero, zero_mul] at h
  exact hx (h.eq_of_toRat toRat_zero)

/-! ### The points of one grid -/

theorem toRat_eq_decimalSteps (x : Magnitude) (i : ℕ) :
    x.toRat = x.decimalSteps / (10 ^ i : ℕ) * 10 ^ ((i : ℤ) - 1074) := by
  have hs := stepsInOne_cast_pos
  have hr : (0 : ℚ) < decimalRatio := by exact_mod_cast decimalRatio_pos
  rw [zpow_sub₀ (by norm_num), zpow_natCast, Nat.cast_pow, Nat.cast_ofNat,
    show (1074 : ℤ) = (1074 : ℕ) from rfl, zpow_natCast, ← decimalRatio_mul_stepsInOne, toRat,
    decimalSteps, Nat.cast_mul]
  field_simp

/-- Distances on a grid are those of whole numbers. -/
theorem abs_grid_sub (x : Magnitude) (c i : ℕ) :
    |c * 10 ^ ((i : ℤ) - 1074) - x.toRat| =
      |(c : ℚ) - x.decimalSteps / (10 ^ i : ℕ)| * 10 ^ ((i : ℤ) - 1074) := by
  have hg : (0 : ℚ) < 10 ^ ((i : ℤ) - 1074) := by positivity
  rw [x.toRat_eq_decimalSteps i, ← sub_mul, abs_mul, abs_of_pos hg]

/-- The points that are not above a size are those up to its lower neighbour. -/
theorem grid_le_toRat_iff :
    (c : ℚ) * 10 ^ ((i : ℤ) - 1074) ≤ x.toRat ↔ c ≤ x.decimalSteps / 10 ^ i := by
  have hi : 0 < 10 ^ i := Nat.pow_pos (by decide)
  rw [x.toRat_eq_decimalSteps i, mul_le_mul_iff_left₀ (by positivity),
    le_div_iff₀ (by exact_mod_cast hi), Nat.le_div_iff_mul_le hi]
  norm_cast

theorem grid_le_grid (e : ℤ) (h : c ≤ c') : (c : ℚ) * 10 ^ e ≤ c' * 10 ^ e :=
  mul_le_mul_of_nonneg_right (by exact_mod_cast h) (by positivity)

theorem ReadsBack.lower (h : x.ReadsBack c i) (hc : c ≤ x.decimalSteps / 10 ^ i) :
    x.ReadsBack (x.decimalSteps / 10 ^ i) i := by
  rw [readsBack_iff] at h ⊢
  exact h.between x.isNearest_toRat (by positivity) (grid_le_grid _ hc)
    (grid_le_toRat_iff.mpr le_rfl)

theorem ReadsBack.upper (h : x.ReadsBack c i) (hc : x.decimalSteps / 10 ^ i < c) :
    x.ReadsBack (x.decimalSteps / 10 ^ i + 1) i := by
  rw [readsBack_iff] at h ⊢
  refine x.isNearest_toRat.between h (by positivity) (le_of_lt ?_) (grid_le_grid _ hc)
  rw [← not_le, grid_le_toRat_iff]
  omega

theorem onGrid?_ne_none (h : x.ReadsBack c i) : x.onGrid? i ≠ none := by
  unfold onGrid?
  dsimp only
  rcases le_or_gt c (x.decimalSteps / 10 ^ i) with hc | hc
  · rw [if_pos (h.lower hc)]
    split_ifs <;> simp
  · have hu := h.upper hc
    split_ifs <;> simp

/-- The search on a grid takes the closest point that reads back. -/
theorem closest_of_onGrid? (h : x.onGrid? i = some c) (h' : x.ReadsBack c' i) :
    |c * 10 ^ ((i : ℤ) - 1074) - x.toRat| ≤ |c' * 10 ^ ((i : ℤ) - 1074) - x.toRat| := by
  unfold onGrid? at h
  dsimp only at h
  split_ifs at h with hlow hhigh hhigh
  · obtain rfl := Option.some.inj h
    rw [abs_grid_sub, abs_grid_sub]
    exact mul_le_mul_of_nonneg_right (roundHalfEven_nearest _ (Nat.pow_pos (by decide)) c')
      (by positivity)
  · obtain rfl := Option.some.inj h
    have hc : c' ≤ x.decimalSteps / 10 ^ i := not_lt.mp fun hc => hhigh (h'.upper hc)
    exact Set.abs_sub_left_of_mem_uIcc
      (Set.mem_uIcc_of_ge (grid_le_grid _ hc) (grid_le_toRat_iff.mpr le_rfl))
  · obtain rfl := Option.some.inj h
    have hc : x.decimalSteps / 10 ^ i < c' := not_le.mp fun hc => hlow (h'.lower hc)
    refine Set.abs_sub_left_of_mem_uIcc (Set.mem_uIcc_of_le (le_of_lt ?_) (grid_le_grid _ hc))
    rw [← not_le, grid_le_toRat_iff]
    omega

/-! ### The search -/

/-- A search from `n` down to one finds the greatest index with a result. -/
private theorem exists_of_findSome?_down {α : Type} {f : ℕ → Option α} {n : ℕ} {a : α}
    (h : ((List.range n).reverse.map (· + 1)).findSome? f = some a) :
    ∃ i, f i = some a ∧ ∀ j, i < j → j ≤ n → f j = none := by
  induction n with
  | zero => simp at h
  | succ n ih =>
    rw [List.range_succ, List.reverse_append, List.reverse_singleton, List.singleton_append,
      List.map_cons, List.findSome?_cons] at h
    cases hn : f (n + 1) with
    | some b =>
      rw [hn] at h
      exact ⟨n + 1, hn.trans h, fun j hj hjn => absurd hjn (not_le.mpr hj)⟩
    | none =>
      rw [hn] at h
      obtain ⟨i, hi, hbelow⟩ := ih h
      refine ⟨i, hi, fun j hj hjn => ?_⟩
      rcases Nat.le_succ_iff.mp hjn with hle | rfl
      · exact hbelow j hj hle
      · exact hn

/-- The search stops at the coarsest grid that has a point, or at the size itself on the finest. -/
theorem shortestPoint_cases (x : Magnitude) :
    (x.onGrid? x.shortestPoint.2 = some x.shortestPoint.1 ∨
      x.shortestPoint = (x.decimalSteps, 0)) ∧
    ∀ j, x.shortestPoint.2 < j → j ≤ x.coarsestGrid → x.onGrid? j = none := by
  unfold shortestPoint
  dsimp only
  cases h : ((List.range x.coarsestGrid).reverse.map (· + 1)).findSome? fun i =>
      (x.onGrid? i).map (·, i) with
  | none =>
    refine ⟨Or.inr rfl, fun j hj hle => ?_⟩
    have hpos : 0 < j := hj
    have hmem : j ∈ (List.range x.coarsestGrid).reverse.map (· + 1) := by
      refine List.mem_map.mpr ⟨j - 1, ?_, Nat.sub_add_cancel hpos⟩
      rw [List.mem_reverse, List.mem_range]
      omega
    exact Option.map_eq_none_iff.mp (List.findSome?_eq_none_iff.mp h j hmem)
  | some point =>
    obtain ⟨i, hi, hbelow⟩ := exists_of_findSome?_down h
    obtain ⟨c, hc, rfl⟩ := Option.map_eq_some_iff.mp hi
    exact ⟨Or.inl hc, fun j hj hle => Option.map_eq_none_iff.mp (hbelow j hj hle)⟩

theorem closest_shortestPoint (h : x.ReadsBack c x.shortestPoint.2) :
    |x.shortestPoint.1 * 10 ^ ((x.shortestPoint.2 : ℤ) - 1074) - x.toRat| ≤
      |c * 10 ^ ((x.shortestPoint.2 : ℤ) - 1074) - x.toRat| := by
  rcases x.shortestPoint_cases.1 with hgrid | hself
  · exact closest_of_onGrid? hgrid h
  · rw [hself, abs_grid_sub]
    dsimp only
    rw [pow_zero, Nat.cast_one, div_one, sub_self, abs_zero, zero_mul]
    exact abs_nonneg _

theorem decimalSteps_lt (x : Magnitude) : x.decimalSteps < 10 ^ x.coarsestGrid :=
  calc x.decimalSteps < 2 ^ (x.decimalSteps.log2 + 1) := Nat.lt_log2_self
    _ ≤ 2 ^ (3 * x.coarsestGrid) :=
      Nat.pow_le_pow_right (by decide) (by unfold coarsestGrid; omega)
    _ = 8 ^ x.coarsestGrid := Nat.pow_mul 2 3 _
    _ ≤ 10 ^ x.coarsestGrid := Nat.pow_le_pow_left (by decide) _

/-- Beyond the coarsest grid of the search all points but zero are too far above. -/
private theorem not_readsBack_beyond (hx : x ≠ zero) (hj : x.coarsestGrid < j) :
    ¬ x.ReadsBack c j := by
  intro h
  have hnear := readsBack_iff.mp h
  have hc := Nat.pos_of_ne_zero (hnear.coefficient_ne_zero hx)
  have hle := hnear.le_two_mul hx
  have hj' : (0 : ℚ) < (10 ^ j : ℕ) := by positivity
  have hg : (0 : ℚ) < 10 ^ ((j : ℤ) - 1074) := by positivity
  rw [x.toRat_eq_decimalSteps j, ← mul_assoc, mul_le_mul_iff_left₀ hg, mul_div_assoc',
    le_div_iff₀ hj'] at hle
  have hle' : c * 10 ^ j ≤ 2 * x.decimalSteps := by exact_mod_cast hle
  have hlt := x.decimalSteps_lt
  have hpow : 10 ^ (x.coarsestGrid + 1) ≤ 10 ^ j := Nat.pow_le_pow_right (by decide) hj
  rw [Nat.pow_succ] at hpow
  have := Nat.le_mul_of_pos_left (10 ^ j) hc
  omega

theorem not_readsBack_of_lt (hx : x ≠ zero) (h : x.shortestPoint.2 < j) : ¬ x.ReadsBack c j := by
  rcases le_or_gt j x.coarsestGrid with hj | hj
  · exact fun hc => onGrid?_ne_none hc (x.shortestPoint_cases.2 j h hj)
  · exact not_readsBack_beyond hx hj

/-! ### All decimals -/

private theorem ten_pow_mul_ten_le (h : e' < e) : (10 : ℚ) ^ e' * 10 ≤ 10 ^ e := by
  rw [← zpow_add_one₀ (by norm_num)]
  exact zpow_le_zpow_right₀ (by norm_num) h

/-- In steps of `2 ^ -1074` the power `10 ^ -323` is little more than two. -/
private theorem ten_pow_mul_stepsInOne :
    2 ≤ (10 : ℚ) ^ (-323 : ℤ) * stepsInOne ∧ (10 : ℚ) ^ (-323 : ℤ) * stepsInOne ≤ 21 / 10 := by
  obtain ⟨k, hk⟩ : ∃ k : ℕ, k = 323 := ⟨_, rfl⟩
  have hle : 2 * 10 ^ k ≤ stepsInOne ∧ 10 * stepsInOne ≤ 21 * 10 ^ k := by
    rw [hk, stepsInOne_eq]
    decide +kernel
  have hlow : (2 : ℚ) * 10 ^ k ≤ stepsInOne := by exact_mod_cast hle.1
  have hhigh : (10 : ℚ) * stepsInOne ≤ 21 * 10 ^ k := by exact_mod_cast hle.2
  have hpos : (0 : ℚ) < 10 ^ k := by positivity
  rw [show (-323 : ℤ) = -(k : ℤ) by omega, zpow_neg, zpow_natCast, inv_mul_eq_div]
  constructor
  · rwa [le_div_iff₀ hpos]
  · rw [div_le_iff₀ hpos]
    linarith

/-- Of the powers of ten among the ten least doubles there is one only. -/
private theorem ten_pow_of_small {m : ℕ} (hm : 0 < m) (hm' : m < 10)
    (hlow : (m : ℚ) < 10 ^ e * stepsInOne) (hhigh : 10 ^ e * stepsInOne ≤ (m : ℚ) + 1 / 2) :
    19 * (10 ^ e * stepsInOne) ≤ (20 : ℚ) * m := by
  obtain ⟨htwo, hmore⟩ := ten_pow_mul_stepsInOne
  have hs := stepsInOne_cast_pos
  have hone : (1 : ℚ) ≤ m := by exact_mod_cast hm
  have hnine : (m : ℚ) ≤ 9 := by exact_mod_cast Nat.le_of_lt_succ hm'
  rcases lt_trichotomy e (-323) with he | rfl | he
  · have := mul_le_mul_of_nonneg_right (ten_pow_mul_ten_le he) hs.le
    linarith
  · have htwo' : (2 : ℚ) ≤ m := by
      have : 1 < m := by
        have : (1 : ℚ) < m := by linarith
        exact_mod_cast this
      exact_mod_cast this
    linarith
  · have := mul_le_mul_of_nonneg_right (ten_pow_mul_ten_le he) hs.le
    linarith

/-- A power of ten that rounds to a smaller size is at most a twentieth of it above. -/
theorem IsNearest.ten_pow_le (h : IsNearest (10 ^ e) x) (hx : x ≠ zero) (hlt : x.toRat < 10 ^ e) :
    19 * 10 ^ e ≤ 20 * x.toRat := by
  have hs := stepsInOne_cast_pos
  have hhalf := x.two_mul_halfway
  have hle := h.le_halfway
  have hsteps : x.toRat = x.significand * (2 ^ x.scale / stepsInOne) := by
    rw [toRat, steps, Nat.cast_mul, two_pow_cast, mul_div_assoc]
  have hunit : ((x.steps + 2 ^ x.scale : ℕ) : ℚ) / stepsInOne =
      x.toRat + 2 ^ x.scale / stepsInOne := by
    rw [toRat, Nat.cast_add, two_pow_cast, add_div]
  rw [hunit] at hhalf
  rcases le_or_gt 10 x.significand with hten | hten
  · have hmul : 10 * (2 ^ x.scale / stepsInOne) ≤ x.toRat := by
      rw [hsteps]
      exact mul_le_mul_of_nonneg_right (by exact_mod_cast hten) (by positivity)
    linarith
  · have hscale : x.scale = 0 := x.normal.resolve_right (by omega)
    have hpos : 0 < x.significand := Nat.pos_of_ne_zero fun h0 => hx (eq_zero_of_significand h0)
    rw [hscale, pow_zero, mul_one_div] at hsteps
    rw [hscale, pow_zero, hsteps] at hhalf
    rw [hsteps, div_lt_iff₀ hs] at hlt
    have hhigh : 10 ^ e * stepsInOne ≤ (x.significand : ℚ) + 1 / 2 := by
      rw [← le_div_iff₀ hs, add_div, div_div, mul_comm 2, ← div_div]
      linarith
    have hsmall := ten_pow_of_small hpos hten hlt hhigh
    rw [hsteps, ← mul_div_assoc, le_div_iff₀ hs]
    linarith

/-- So one digit at a lower place is not closer than the power. -/
theorem IsNearest.ten_pow_closer (h : IsNearest (10 ^ e) x) (hx : x ≠ zero) (hc : c < 10)
    (he : e' < e) : |10 ^ e - x.toRat| ≤ |c * 10 ^ e' - x.toRat| := by
  have hc9 : (c : ℚ) ≤ 9 := by exact_mod_cast Nat.le_of_lt_succ hc
  have hnine : (c : ℚ) * 10 ^ e' * 10 ≤ 9 * 10 ^ e := by
    rw [mul_assoc]
    exact mul_le_mul hc9 (ten_pow_mul_ten_le he) (by positivity) (by norm_num)
  have hpos : (0 : ℚ) < 10 ^ e := by positivity
  rcases le_or_gt (10 ^ e) x.toRat with hle | hlt
  · rw [abs_of_nonpos (by linarith), abs_of_nonpos (by linarith)]
    linarith
  · have := h.ten_pow_le hx hlt
    rw [abs_of_pos (by linarith), abs_of_nonpos (by linarith)]
    linarith

/-- A power of ten between two decimals that read back. -/
theorem IsNearest.ten_pow {k l : ℕ} (h : IsNearest (c * 10 ^ e) x)
    (h' : IsNearest (c' * 10 ^ e') x) (hk : 10 ^ k ≤ c) (hl : c' < 10 ^ l) (hle : l + e' ≤ k + e) :
    IsNearest (10 ^ (k + e)) x := by
  have hsplit : ∀ (n : ℕ) (e : ℤ), (10 : ℚ) ^ (n + e) = (10 ^ n : ℕ) * 10 ^ e := by
    intro n e
    rw [zpow_add₀ (by norm_num), zpow_natCast, Nat.cast_pow, Nat.cast_ofNat]
  refine h'.between h (by positivity) ?_ ?_
  · calc (c' : ℚ) * 10 ^ e' ≤ (10 ^ l : ℕ) * 10 ^ e' := grid_le_grid e' hl.le
      _ = 10 ^ (l + e') := (hsplit l e').symm
      _ ≤ 10 ^ (k + e) := zpow_le_zpow_right₀ (by norm_num) hle
  · rw [hsplit]
    exact grid_le_grid e hk

/-- A decimal is the shortest if no point of a coarser grid reads back and no closer point of its
own grid does. A decimal on a finer grid with as few digits lies below the power of ten at the
leading digit. That reads back too, and is a point of a coarser grid unless there is a single
digit. -/
theorem isShortest_of (hx : x ≠ zero) (h : IsNearest (c * 10 ^ e) x)
    (hcoarser : ∀ (c' : ℕ) (e' : ℤ), e < e' → ¬ IsNearest (c' * 10 ^ e') x)
    (hgrid : ∀ c' : ℕ, IsNearest (c' * 10 ^ e) x →
      |c * 10 ^ e - x.toRat| ≤ |c' * 10 ^ e - x.toRat|) : x.IsShortest c e := by
  have hone : ∀ {e' : ℤ}, IsNearest (10 ^ e') x → IsNearest ((1 : ℕ) * 10 ^ e') x := by
    intro e' he
    rwa [Nat.cast_one, one_mul]
  have hzero : ∀ k : ℕ, IsNearest (10 ^ (k + e)) x → k = 0 := by
    intro k hk
    by_contra hne
    exact hcoarser 1 (k + e) (by omega) (hone hk)
  refine ⟨h, fun k c' e' hc' h' => ?_, fun k c' e' hk hc' h' => ?_⟩
  · by_contra hk
    have hle : e' ≤ e := not_lt.mp fun he => hcoarser c' e' he h'
    have hk0 := hzero k (h.ten_pow h' (not_lt.mp hk) hc' (by omega))
    rw [hk0, pow_zero, Nat.lt_one_iff] at hc'
    exact h'.coefficient_ne_zero hx hc'
  · rcases lt_trichotomy e' e with he | rfl | he
    · have hten := h.ten_pow h' hk hc' (by push_cast; omega)
      obtain rfl := hzero k hten
      rw [Nat.cast_zero, zero_add] at hten
      have hcl := hgrid 1 (hone hten)
      rw [Nat.cast_one, one_mul] at hcl
      exact hcl.trans (hten.ten_pow_closer hx hc' he)
    · exact hgrid c' h'
    · exact absurd h' (hcoarser c' e' he)

/-- The written decimal is the shortest. -/
theorem isShortest_shortest (x : Magnitude) : x.IsShortest x.shortest.1 x.shortest.2 := by
  unfold shortest
  split_ifs with h0
  · obtain rfl := eq_zero_of_significand h0
    have hnear := isNearest_toRat zero
    rw [toRat_zero] at hnear
    refine ⟨?_, fun k _ _ _ _ => Nat.pow_pos (by decide), fun k _ _ hk => ?_⟩
    · rwa [Nat.cast_zero, zero_mul]
    · exact absurd hk (not_le.mpr (Nat.pow_pos (by decide)))
  · have hx : x ≠ zero := fun h => h0 (congrArg significand h)
    apply isShortest_of hx (readsBack_iff.mp x.readsBack_shortestPoint)
    · intro c' e' he h
      obtain ⟨j, hj⟩ : ∃ j : ℕ, e' = (j : ℤ) - 1074 := ⟨(e' + 1074).toNat, by omega⟩
      rw [hj] at he h
      exact not_readsBack_of_lt hx (by omega) (readsBack_iff.mpr h)
    · exact fun c' h => closest_shortestPoint (readsBack_iff.mpr h)

/-- A power of ten that is not above the size is not above its shortest decimal. -/
theorem IsShortest.ten_pow_le (h : x.IsShortest c e) (hx : x ≠ zero) (he : 10 ^ e' ≤ x.toRat) :
    (10 : ℚ) ^ e' ≤ c * 10 ^ e := by
  by_contra hlt
  have hlt := not_le.mp hlt
  have hten : IsNearest ((1 : ℕ) * 10 ^ e') x := by
    rw [Nat.cast_one, one_mul]
    exact h.rounds.between x.isNearest_toRat (by positivity) hlt.le he
  have hcl := h.closest 0 1 e' (Nat.pos_of_ne_zero (h.rounds.coefficient_ne_zero hx)) (by decide)
    hten
  rw [Nat.cast_one, one_mul, abs_of_nonpos (by linarith), abs_of_nonpos (by linarith)] at hcl
  linarith

end Magnitude

end SIUnits
