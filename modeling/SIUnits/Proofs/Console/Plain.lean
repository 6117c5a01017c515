import SIUnits.Console.Width

/-! The console of the program shows plain texts as they are, whatever its width is
(`Console.literal_ofWidth`). -/
namespace SIUnits.Console

/-- The console does nothing about the character: it ends no line and no stretch, is not left out,
and takes no meaning from what follows it. -/
def isPlain (c : Char) : Bool := c ≠ '\\' && c ≠ '\n' && c ≠ '\t' && !isDropped c

theorem closeBackslash_eq_self {cs : List Char} (h : '\\' ∉ cs) : closeBackslash cs = cs := by
  rw [← List.mem_reverse] at h
  unfold closeBackslash
  split
  · rfl
  · next hr => simp [hr] at h
  · rfl

theorem openBrackets_eq_self {cs : List Char} (h : '\\' ∉ cs) : openBrackets cs = cs := by
  fun_induction openBrackets cs with
  | case1 => simp at h
  | case2 => simp at h
  | case3 c cs _ ih => rw [ih (List.not_mem_of_not_mem_cons h)]
  | case4 => rfl

theorem plain_eq_self {s : String} (h : ∀ c ∈ s.toList, isPlain c = true) : plain s = s := by
  have hall : ∀ c ∈ s.toList, ((c ≠ '\\' ∧ c ≠ '\n') ∧ c ≠ '\t') ∧ isDropped c = false := by
    simpa [isPlain] using h
  have hback : '\\' ∉ s.toList := fun hc => (hall _ hc).1.1.1 rfl
  have hline : '\n' ∉ s.toList := fun hc => (hall _ hc).1.1.2 rfl
  have htab : '\t' ∉ s.toList := fun hc => (hall _ hc).1.2 rfl
  have hshown : shown s = s.toList := by
    rw [shown, closeBackslash_eq_self hback, openBrackets_eq_self hback, List.filter_eq_self]
    intro c hc
    rw [(hall c hc).2, Bool.not_false]
  rw [plain, hshown, List.splitOn_eq_singleton hline]
  simp only [List.map_cons, List.map_nil, List.splitOn_eq_singleton htab]
  simp [joinStretches, joinLines]

theorem le_toNat_of_isLiteral {c : Char} (h : isLiteral c = true) : 32 ≤ c.toNat := by
  have hcontrol : ∀ n < 32, isLiteral (Char.ofNat n) = false := by decide
  apply Nat.le_of_not_lt
  intro hlt
  have hc := hcontrol c.toNat hlt
  rw [Char.ofNat_toNat, h] at hc
  cases hc

theorem isPlain_of_isLiteral {c : Char} (h : isLiteral c = true) : isPlain c = true := by
  have hcode := le_toNat_of_isLiteral h
  have hback : c ≠ '\\' := by
    intro hc
    rw [hc] at h
    exact absurd h (by decide)
  have hline : c ≠ '\n' := by
    intro hc
    rw [hc] at hcode
    exact absurd hcode (by decide)
  have htab : c ≠ '\t' := by
    intro hc
    rw [hc] at hcode
    exact absurd hcode (by decide)
  have hdropped : isDropped c = false := by
    unfold isDropped
    simp only [List.contains_eq_mem, List.mem_cons, List.not_mem_nil, or_false,
      decide_eq_false_iff_not]
    omega
  simp [isPlain, hback, hline, htab, hdropped]

theorem literal_ofWidth (columns : Nat) : (ofWidth columns).Literal := by
  intro s hs
  have hplain : ∀ c ∈ s.toList, isPlain c = true :=
    fun c hc => isPlain_of_isLiteral (List.all_eq_true.mp hs c hc)
  change plain s ++ "\n" = s ++ "\n"
  rw [plain_eq_self hplain]

end SIUnits.Console
