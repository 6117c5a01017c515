import SIUnits.Conversion.Outcome
import SIUnits.Proofs.Conversion.Steps
import SIUnits.Proofs.Decimal.Reading

/-! Only failures stop the conversion of a line: no value that is built on the way breaks the rules
of its kind, so the outcome of a line always exists (`Outcome.ofLine_total`). -/
namespace SIUnits

/-- Whatever ends the computation is a failure that is reported to whoever asked. -/
def Traced.OnlyFails {α : Type} (x : Traced Fault α) : Prop :=
  ∀ fault, x.result = .error fault → ∃ f, fault = .failure f

section OnlyFails

variable {α : Type} {x : Traced Fault α}

theorem Traced.onlyFails_of_ok {a : α} (h : x.result = .ok a) : x.OnlyFails := by
  intro fault hf
  rw [h] at hf
  cases hf

theorem Traced.onlyFails_of_failure {f : Failure} (h : x.result = .error (.failure f)) :
    x.OnlyFails := by
  intro fault hf
  rw [h] at hf
  exact ⟨f, (Except.error.inj hf).symm⟩

end OnlyFails

theorem PrefixedUnit.onlyFails_resolve (token : String) : (resolve token).OnlyFails := by
  rcases resolve_cases token with ⟨u, hu⟩ | ⟨f, hf, -⟩
  · exact Traced.onlyFails_of_ok hu
  · exact Traced.onlyFails_of_failure hf

namespace Query

theorem onlyFails_parse (line : String) : (parse line).OnlyFails := by
  rcases parse_cases line with ⟨y, n, a, b, h⟩ | ⟨f, hf⟩
  · exact Traced.onlyFails_of_ok h
  · exact Traced.onlyFails_of_failure hf

/-- A parsed query keeps the rules of queries, and converting it can only fail. -/
theorem valid_of_parse {line : String} {q : Query} (h : (parse line).result = .ok q) :
    q.Valid ∧ q.convert.OnlyFails := by
  rcases parse_cases line with ⟨y, n, a, b, hq⟩ | ⟨f, hf⟩
  swap
  · rw [hf] at h
    cases h
  obtain rfl : Query.mk (.finite false y) n a b = q := Except.ok.inj (hq.symm.trans h)
  refine ⟨valid_of_plus y n a b, ?_⟩
  rcases convert_cases (q := ⟨.finite false y, n, a, b⟩) rfl with ⟨z, hz⟩ | ⟨f, hf, -⟩
  · exact Traced.onlyFails_of_ok hz
  · exact Traced.onlyFails_of_failure hf

end Query

/-- A line has a result with a plus sign that keeps the rules of results, or it is reported why
not. -/
theorem convertLine_cases (line : String) :
    (∃ r, (convertLine line).result = .ok r ∧ r.Valid ∧ ∃ z, r.quantity = .finite false z) ∨
      ∃ f, (convertLine line).result = .error (.failure f) := by
  rcases Query.parse_cases line with ⟨y, n, a, b, hq⟩ | ⟨f, hf⟩
  swap
  · exact Or.inr ⟨f, convertLine_of_parse_error hf⟩
  rw [convertLine_of_parse hq]
  rcases Query.convert_cases (q := ⟨.finite false y, n, a, b⟩) rfl with
    ⟨z, hz⟩ | ⟨f, hf, -⟩
  · exact Or.inl ⟨_, hz, ⟨rfl, rfl, Query.valid_of_plus y n a b⟩, z, rfl⟩
  · exact Or.inr ⟨f, hf⟩

namespace Outcome

variable {line : String}

theorem ofLine_of_ok {r : Conversion} (h : (convertLine line).result = .ok r) :
    (ofLine line).result = .ok ⟨line, some r, none⟩ := by
  simp only [ofLine, h]

theorem ofLine_of_failure {f : Failure} (h : (convertLine line).result = .error (.failure f)) :
    (ofLine line).result = .ok ⟨line, none, some f⟩ := by
  simp only [ofLine, h]

/-- Every line has an outcome. It holds the result with its finite quantity that is not below zero,
or the failure that ended the conversion, and nothing else ends any step on the way: a token that is
matched as a literal is read as a number, as the double nearest to it, and the queries, units and
results that are built keep their rules. -/
theorem ofLine_total (line : String) :
    (∃ o, (ofLine line).result = .ok o ∧ o.line = line ∧
      (o.isOk = true ↔ ∃ r, (convertLine line).result = .ok r) ∧
      (∀ r, (convertLine line).result = .ok r → o.result = some r ∧ o.failure = none ∧
        r.Valid ∧ ∃ z, r.quantity = .finite false z) ∧
      ∀ fault, (convertLine line).result = .error fault →
        ∃ f, fault = .failure f ∧ o.result = none ∧ o.failure = some f) ∧
    ((Query.parse line).OnlyFails ∧
      ∀ q, (Query.parse line).result = .ok q → q.Valid ∧ q.convert.OnlyFails) ∧
    (∀ token, (PrefixedUnit.resolve token).OnlyFails ∧
      ∀ u, (PrefixedUnit.resolve token).result = .ok u → u.Valid) ∧
    (∀ token fault, Query.quantityOf token = .error fault → ∃ f, fault = .failure f) ∧
    ∀ token l, Decimal.Literal.ofString? token = some l →
      Binary64.ofText? token = some l.toBinary64 ∧ l.WellFormed ∧ toString l = token ∧
      l.toBinary64 = Binary64.round l.isNegative l.toRat ∧
      ((∃ x, l.toBinary64 = .finite l.isNegative x) ∨ l.toBinary64 = .infinite l.isNegative) := by
  refine ⟨?_, ⟨Query.onlyFails_parse line, fun q => Query.valid_of_parse⟩,
    fun token => ⟨PrefixedUnit.onlyFails_resolve token, fun u => PrefixedUnit.valid_of_resolve⟩,
    ?_, ?_⟩
  · rcases convertLine_cases line with ⟨r, hr, hvalid, hz⟩ | ⟨f, hf⟩
    · refine ⟨_, ofLine_of_ok hr, rfl, by simp [isOk, hr], ?_, fun fault h => by simp [hr] at h⟩
      intro r' h
      obtain rfl : r = r' := Except.ok.inj (hr.symm.trans h)
      exact ⟨rfl, rfl, hvalid, hz⟩
    · refine ⟨_, ofLine_of_failure hf, rfl, by simp [isOk, hf], fun r h => by simp [hf] at h, ?_⟩
      intro fault h
      exact ⟨f, (Except.error.inj (hf.symm.trans h)).symm, rfl, rfl⟩
  · intro token fault h
    rcases Query.quantityOf_cases token with ⟨x, hx⟩ | ⟨f, hf⟩
    · simp [hx] at h
    · exact ⟨f, (Except.error.inj (hf.symm.trans h)).symm⟩
  · intro token l hl
    refine ⟨Binary64.ofText?_of_literal hl, Decimal.Literal.wellFormed_of_ofChars? hl, ?_,
      l.toBinary64_eq_round, Query.toBinary64_cases l⟩
    change String.ofList l.toChars = token
    rw [Decimal.Literal.toChars_of_ofChars? hl, String.ofList_toList]

end Outcome

end SIUnits
