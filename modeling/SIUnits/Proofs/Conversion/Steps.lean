import SIUnits.Proofs.Conversion.Quantity
import SIUnits.Proofs.Query.Line
import SIUnits.Proofs.Unit.Grammar

/-! The conversion of a query step by step. Each step has one way to fail, and where none of them
does the result keeps the rules of results (`Query.convert_of_finite`). -/
namespace SIUnits

open Magnitude

theorem Traced.result_of_toOption {α : Type} {x : Traced Fault α} {a : α}
    (h : x.result.toOption = some a) : x.result = .ok a := by
  cases hr : x.result with
  | error fault =>
    rw [hr] at h
    cases h
  | ok b =>
    rw [hr] at h
    exact congrArg Except.ok (Option.some.inj h)

/-- Between two units the converted quantity is too large if both formulas say so, and otherwise
finite and not below zero. -/
theorem PrefixedUnit.convertQuantity_cases {a b : String} {u v : PrefixedUnit}
    (ha : (resolve a).result = .ok u) (hb : (resolve b).result = .ok v) (x : Magnitude) :
    (∃ z, convertQuantity (.finite false x) u.multiplier v.multiplier = .finite false z) ∨
      convertQuantity (.finite false x) u.multiplier v.multiplier = .infinite false ∧
        .finite false x * u.multiplier / v.multiplier = .infinite false ∧
        .finite false x * (u.multiplier / v.multiplier) = .infinite false := by
  obtain ⟨_, _, s, hs, _⟩ := multiplier_of_resolve ha
  obtain ⟨hl, _, t, ht, htn⟩ := multiplier_of_resolve hb
  have hpos := htn.pos_of_ten_zpow hl
  rw [hs, ht]
  rcases (hasPlusSign_convertQuantity x s hpos).cases with hz | hinf
  · exact Or.inl hz
  · exact Or.inr ⟨hinf, (convertQuantity_eq_infinite_iff x s hpos).mp hinf⟩

theorem PrefixedUnit.convertQuantity_signedZero {a b : String} {u v : PrefixedUnit}
    (ha : (resolve a).result = .ok u) (hb : (resolve b).result = .ok v) (n : Bool) :
    convertQuantity (.finite n .zero) u.multiplier v.multiplier = .finite n .zero := by
  obtain ⟨s, hs, -⟩ := isMultiplier_of_resolve ha
  obtain ⟨t, ht, htm⟩ := isMultiplier_of_resolve hb
  rw [hs, ht]
  exact SIUnits.convertQuantity_signedZero n s htm.pos

namespace Query

variable {q : Query} {u v : PrefixedUnit}

theorem convert_of_source {fault : Fault}
    (h : (PrefixedUnit.resolve q.sourceUnit).result = .error fault) :
    q.convert.result = .error fault := by
  simp [convert, h]

theorem convert_of_target {fault : Fault}
    (hs : (PrefixedUnit.resolve q.sourceUnit).result = .ok u)
    (h : (PrefixedUnit.resolve q.targetUnit).result = .error fault) :
    q.convert.result = .error fault := by
  simp [convert, hs, h]

variable (hs : (PrefixedUnit.resolve q.sourceUnit).result = .ok u)
  (ht : (PrefixedUnit.resolve q.targetUnit).result = .ok v)
include hs ht

theorem convert_of_roots (h : u.root ≠ v.root) :
    q.convert.result = .error (.failure ⟨.rootUnitMismatch u.root.symbol v.root.symbol
      (some q.sourceUnit) (some q.targetUnit), []⟩) := by
  simp [convert, hs, ht, h, PrefixedUnit.symbol_of_resolve hs, PrefixedUnit.symbol_of_resolve ht]

theorem convert_of_infinite (hr : u.root = v.root)
    (h : (convertQuantity q.quantity u.multiplier v.multiplier).isFinite = false) :
    q.convert.result = .error (.failure
      ⟨.conversionOverflow q.quantityText q.sourceUnit q.targetUnit, []⟩) := by
  simp [convert, hs, ht, hr, h]

theorem convert_of_valid (hr : u.root = v.root) (hq : q.Valid) {y : Binary64}
    (h : convertQuantity q.quantity u.multiplier v.multiplier = y) (hf : y.isFinite = true)
    (hb : y.isBelowZero = false) : q.convert.result = .ok ⟨y, q.targetUnit, q⟩ := by
  have hv : Conversion.Valid ⟨y, q.targetUnit, q⟩ := ⟨hf, hb, hq⟩
  simp [convert, hs, ht, hr, h, hf, hv.checked]

theorem convert_of_finite (hr : u.root = v.root) (hq : q.Valid) {z : Magnitude}
    (h : convertQuantity q.quantity u.multiplier v.multiplier = .finite false z) :
    q.convert.result = .ok ⟨.finite false z, q.targetUnit, q⟩ :=
  convert_of_valid hs ht hr hq h rfl rfl

/-- A zero is converted to the zero that it is. -/
theorem convert_of_signedZero (hr : u.root = v.root) {n : Bool}
    (h : q.quantity = .finite n .zero) :
    q.convert.result = .ok ⟨.finite n .zero, q.targetUnit, q⟩ := by
  have hb : (Binary64.finite n .zero).isBelowZero = false := by cases n <;> rfl
  exact convert_of_valid hs ht hr ⟨by rw [h]; rfl, h ▸ hb⟩
    (h ▸ PrefixedUnit.convertQuantity_signedZero hs ht n) rfl hb

omit hs ht

/-- The failure says of the query that one of its units is none, that they have different roots, or
that the converted quantity is too large. -/
def Unconverted (q : Query) (f : Failure) : Prop :=
  PrefixedUnit.Unresolved q.sourceUnit f ∨ PrefixedUnit.Unresolved q.targetUnit f ∨
    (∃ r r', f = ⟨.rootUnitMismatch r r' (some q.sourceUnit) (some q.targetUnit), []⟩) ∨
    f = ⟨.conversionOverflow q.quantityText q.sourceUnit q.targetUnit, []⟩

/-- A query with a quantity has a result that keeps the rules of results, or it is reported why
not. -/
theorem convert_cases {y : Magnitude} (hy : q.quantity = .finite false y) :
    (∃ z, q.convert.result = .ok ⟨.finite false z, q.targetUnit, q⟩) ∨
      ∃ f, q.convert.result = .error (.failure f) ∧ q.Unconverted f := by
  have hq : q.Valid := ⟨by rw [hy]; rfl, by rw [hy]; rfl⟩
  rcases PrefixedUnit.resolve_cases q.sourceUnit with ⟨u, hs⟩ | ⟨f, hs, hf⟩
  swap
  · exact Or.inr ⟨f, convert_of_source hs, Or.inl hf⟩
  rcases PrefixedUnit.resolve_cases q.targetUnit with ⟨v, ht⟩ | ⟨f, ht, hf⟩
  swap
  · exact Or.inr ⟨f, convert_of_target hs ht, Or.inr (Or.inl hf)⟩
  by_cases hr : u.root = v.root
  swap
  · exact Or.inr ⟨_, convert_of_roots hs ht hr, Or.inr (Or.inr (Or.inl ⟨_, _, rfl⟩))⟩
  rcases PrefixedUnit.convertQuantity_cases hs ht y with ⟨z, hz⟩ | ⟨hinf, -⟩
  · exact Or.inl ⟨z, convert_of_finite hs ht hr hq (hy ▸ hz)⟩
  · exact Or.inr ⟨_, convert_of_infinite hs ht hr (by rw [hy, hinf]; rfl),
      Or.inr (Or.inr (Or.inr rfl))⟩

theorem resolved_of_convert {r : Conversion} (h : q.convert.result = .ok r) :
    (∃ u, (PrefixedUnit.resolve q.sourceUnit).result = .ok u) ∧
      ∃ v, (PrefixedUnit.resolve q.targetUnit).result = .ok v := by
  rcases PrefixedUnit.resolve_cases q.sourceUnit with hs | ⟨f, hs, -⟩
  swap
  · rw [convert_of_source hs] at h
    cases h
  rcases PrefixedUnit.resolve_cases q.targetUnit with ht | ⟨f, ht, -⟩
  swap
  · obtain ⟨u, hu⟩ := hs
    rw [convert_of_target hu ht] at h
    cases h
  exact ⟨hs, ht⟩

/-- What a conversion that succeeds has done. -/
theorem exists_of_convert {r : Conversion} (hq : q.Valid) (h : q.convert.result = .ok r) :
    ∃ u v, (PrefixedUnit.resolve q.sourceUnit).result = .ok u ∧
      (PrefixedUnit.resolve q.targetUnit).result = .ok v ∧ u.root = v.root ∧
      convertQuantity q.quantity u.multiplier v.multiplier = r.quantity ∧
      r.quantity.isFinite = true := by
  obtain ⟨⟨u, hs⟩, v, ht⟩ := resolved_of_convert h
  by_cases hr : u.root = v.root
  swap
  · rw [convert_of_roots hs ht hr] at h
    cases h
  refine ⟨u, v, hs, ht, hr, ?_⟩
  rcases hq.quantity_cases with ⟨x, hx⟩ | hz
  · rcases PrefixedUnit.convertQuantity_cases hs ht x with ⟨z, hz⟩ | ⟨hinf, -⟩
    · rw [convert_of_finite hs ht hr hq (hx ▸ hz)] at h
      obtain rfl := Except.ok.inj h
      exact ⟨hx ▸ hz, rfl⟩
    · rw [convert_of_infinite hs ht hr (by rw [hx, hinf]; rfl)] at h
      cases h
  · have hkept := PrefixedUnit.convertQuantity_signedZero hs ht true
    rw [convert_of_signedZero hs ht hr hz] at h
    obtain rfl := Except.ok.inj h
    exact ⟨hz ▸ hkept, rfl⟩

end Query

theorem convertLine_of_parse_error {line : String} {fault : Fault}
    (h : (Query.parse line).result = .error fault) : (convertLine line).result = .error fault := by
  rw [convertLine, Traced.result_bind, h]

theorem convertLine_of_parse {line : String} {q : Query} (h : (Query.parse line).result = .ok q) :
    (convertLine line).result = q.convert.result := by
  rw [convertLine, Traced.result_bind, h]

section Fields

variable {line n a b : String} (h : Text.splitSpaces line = [n, a, "=", b])
include h

theorem convertLine_of_number_error {fault : Fault} (hq : Query.quantityOf n = .error fault) :
    (convertLine line).result = .error fault := by
  apply convertLine_of_parse_error
  rw [Query.parse_of_fields h, hq]

theorem convertLine_of_quantity {x : Binary64} (hq : Query.quantityOf n = .ok x) :
    (convertLine line).result = (Query.convert ⟨x, n, a, b⟩).result := by
  apply convertLine_of_parse
  rw [Query.parse_of_fields h, hq]

end Fields

/-- The conversion of a written query between two units of one root. -/
theorem convertLine_queryLine {x z : Magnitude} {a b : String} {u v : PrefixedUnit}
    (ha : (PrefixedUnit.resolve a).result = .ok u) (hb : (PrefixedUnit.resolve b).result = .ok v)
    (hr : u.root = v.root)
    (hz : convertQuantity (.finite false x) u.multiplier v.multiplier = .finite false z) :
    (convertLine (queryLine (Binary64.text (.finite false x)) a b)).result =
      .ok ⟨.finite false z, b, ⟨.finite false x, Binary64.text (.finite false x), a, b⟩⟩ := by
  have hs := splitSpaces_queryLine (Binary64.space_not_mem_text false x)
    (PrefixedUnit.space_not_mem_of_resolve ha) (PrefixedUnit.space_not_mem_of_resolve hb)
  rw [convertLine_of_quantity hs (Query.quantityOf_text x)]
  exact Query.convert_of_finite (q := ⟨_, _, a, b⟩) ha hb hr (Query.valid_of_plus x _ a b) hz

end SIUnits
