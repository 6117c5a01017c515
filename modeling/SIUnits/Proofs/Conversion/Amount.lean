import SIUnits.Proofs.Conversion.Steps

/-! The conversion of a bare amount. An amount has no text of its own, so it is not parsed, and its
checks are made on the number. They agree with those of a line: a double is converted as the line
that shows it, with the same failures, and a whole number as the double nearest to it
(`Amount.convert_agrees`). -/
namespace SIUnits

open Magnitude

namespace Amount

variable {amount : Amount} {x : Magnitude} {v : Binary64} {a b : String}

/-- Only the double matters, not how the amount was written, if it is finite and not below zero. -/
theorem convert_eq_of_notBelowZero (hf : amount.toBinary64.isFinite = true)
    (hb : amount.toBinary64.isBelowZero = false) :
    amount.convert a b = do
      let query ← Query.checked ⟨amount.toBinary64, amount.toBinary64.text, a, b⟩
      let result ← query.convert
      return result.quantity := by
  simp only [convert, hf, hb, Bool.not_true, Bool.false_eq_true, if_false]

theorem convert_of_notBelowZero (hf : amount.toBinary64.isFinite = true)
    (hb : amount.toBinary64.isBelowZero = false) :
    (amount.convert a b).result =
      (Query.convert ⟨amount.toBinary64, amount.toBinary64.text, a, b⟩).result.map
        (·.quantity) := by
  have hv : Query.Valid ⟨amount.toBinary64, amount.toBinary64.text, a, b⟩ := ⟨hf, hb⟩
  simp only [convert_eq_of_notBelowZero hf hb, Traced.result_bind, hv.checked, Traced.result_pure]
  cases (Query.convert ⟨amount.toBinary64, amount.toBinary64.text, a, b⟩).result <;> rfl

theorem convert_of_plus (h : amount.toBinary64 = .finite false x) :
    (amount.convert a b).result =
      (Query.convert ⟨.finite false x, Binary64.text (.finite false x), a, b⟩).result.map
        (·.quantity) := by
  rw [convert_of_notBelowZero (by rw [h]; rfl) (by rw [h]; rfl), h]

theorem convert_of_belowZero (hf : amount.toBinary64.isFinite = true)
    (hb : amount.toBinary64.isBelowZero = true) : (amount.convert a b).result =
      .error (.failure ⟨.negativeNumber amount.text (some amount.toValue), []⟩) := by
  simp [convert, hf, hb]

/-- A double is converted as the line that shows it. -/
theorem convert_number_eq (ha : ' ' ∉ a.toList) (hb : ' ' ∉ b.toList) (hv : v.isFinite = true)
    (hz : v ≠ .finite true .zero) : ((number v).convert a b).result =
      (convertLine (queryLine v.text a b)).result.map (·.quantity) := by
  rcases Binary64.plus_or_belowZero hv hz with ⟨x, rfl⟩ | ⟨x, rfl, hbelow⟩
  · have hfields := splitSpaces_queryLine (Binary64.space_not_mem_text false x) ha hb
    rw [convertLine_of_quantity hfields (Query.quantityOf_text x), convert_of_plus rfl]
  · have hfields := splitSpaces_queryLine (Binary64.space_not_mem_text true x) ha hb
    -- The line is refused for its text and the amount for its value, with one failure for both.
    have hnumber : ((number (.finite true x)).convert a b).result = _ :=
      convert_of_belowZero hv hbelow
    rw [convertLine_of_number_error hfields (Query.quantityOf_text_of_belowZero hbelow), hnumber]
    rfl

theorem unconverted_of_plus {fault : Fault} (h : amount.toBinary64 = .finite false x)
    (hf : (amount.convert a b).result = .error fault) : ∃ f, fault = .failure f ∧
      Query.Unconverted ⟨.finite false x, Binary64.text (.finite false x), a, b⟩ f := by
  rw [convert_of_plus h] at hf
  rcases Query.convert_cases (q := ⟨.finite false x, Binary64.text (.finite false x), a, b⟩) rfl
    with ⟨z, hz⟩ | ⟨f, hq, hwhy⟩
  · rw [hz] at hf
    cases hf
  · rw [hq] at hf
    cases hf
    exact ⟨f, rfl, hwhy⟩

theorem convert_whole_eq {n : ℕ} {d : Magnitude} (h : d.IsNearest n) :
    (whole n).convert a b = (number (.finite false d)).convert a b := by
  have hn : (whole n).toBinary64 = .finite false d := Binary64.ofInt_natCast h
  have hd : (number (.finite false d)).toBinary64 = .finite false d := rfl
  rw [convert_eq_of_notBelowZero (by rw [hn]; rfl) (by rw [hn]; rfl),
    convert_eq_of_notBelowZero (by rw [hd]; rfl) (by rw [hd]; rfl), hn, hd]

/-- The conversion of an amount agrees with that of a line. For a finite double that is not the
negative zero both give one quantity or one failure: a number below zero is refused as such, and any
other can only fail for its units or for its size. A whole number is converted as the double
nearest to it. -/
theorem convert_agrees (ha : ' ' ∉ a.toList) (hb : ' ' ∉ b.toList) :
    (∀ v : Binary64, v.isFinite = true → v ≠ .finite true .zero →
      (∀ x, ((number v).convert a b).result = .ok x ↔
        ∃ r, (convertLine (queryLine v.text a b)).result = .ok r ∧ r.quantity = x) ∧
      (∀ fault, ((number v).convert a b).result = .error fault ↔
        (convertLine (queryLine v.text a b)).result = .error fault) ∧
      (v.isBelowZero = true → ((number v).convert a b).result =
        .error (.failure ⟨.negativeNumber v.text (some (.number v)), []⟩)) ∧
      (v.isBelowZero = false → ∀ fault, ((number v).convert a b).result = .error fault →
        ∃ f, fault = .failure f ∧ Query.Unconverted ⟨v, v.text, a, b⟩ f)) ∧
    ∀ (n : ℕ) (d : Magnitude), d.IsNearest n →
      (whole n).convert a b = (number (.finite false d)).convert a b := by
  refine ⟨?_, fun n d h => convert_whole_eq h⟩
  intro v hv hz
  have heq := convert_number_eq ha hb hv hz
  refine ⟨?_, ?_, fun hbelow => convert_of_belowZero hv hbelow, ?_⟩
  · intro x
    rw [heq]
    cases (convertLine (queryLine v.text a b)).result <;> simp [Except.map]
  · intro fault
    rw [heq]
    cases (convertLine (queryLine v.text a b)).result <;> simp [Except.map]
  · intro hplus fault hf
    rcases Binary64.plus_or_belowZero hv hz with ⟨x, rfl⟩ | ⟨x, -, hbelow⟩
    · exact unconverted_of_plus rfl hf
    · rw [hbelow] at hplus
      cases hplus

/-- A whole number between two doubles is converted as the even one of them. -/
theorem convert_agrees_kilograms : ∃ d : Magnitude, d.IsNearest (9007199254740993 : ℕ) ∧
    (whole 9007199254740993).convert "kg" "g" = (number (.finite false d)).convert "kg" "g" ∧
    ∃ x, ((number (.finite false d)).convert "kg" "g").result = .ok x ∧
      ∃ r, (convertLine (queryLine (Binary64.text (.finite false d)) "kg" "g")).result = .ok r ∧
        r.quantity = x := by
  have hsize : ((9007199254740993 : ℕ) : ℚ) ≤ 2 ^ 1023 :=
    calc ((9007199254740993 : ℕ) : ℚ) ≤ 2 ^ 54 := by norm_num
      _ ≤ 2 ^ 1023 := pow_le_pow_right₀ one_le_two (by decide)
  obtain ⟨d, -, hd⟩ := exists_isNearest (Nat.cast_nonneg _) (lt_overflowBound hsize)
  obtain ⟨hnumber, hwhole⟩ := convert_agrees (a := "kg") (b := "g") (by decide) (by decide)
  have heq : (whole 9007199254740993).convert "kg" "g" = _ := hwhole _ d hd
  have hok : ((whole 9007199254740993).convert "kg" "g").result.toOption.isSome = true := by
    decide +kernel
  rw [heq] at hok
  refine ⟨d, hd, heq, ?_⟩
  cases hx : ((number (.finite false d)).convert "kg" "g").result with
  | error fault =>
    rw [hx] at hok
    cases hok
  | ok x =>
    have hv : Binary64.finite false d ≠ .finite true .zero := by simp
    exact ⟨x, rfl, ((hnumber _ rfl hv).1 x).mp hx⟩

end Amount

end SIUnits
