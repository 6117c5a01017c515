import SIUnits.Proofs.Binary64.Order
import SIUnits.Proofs.Conversion.Amount
import SIUnits.Proofs.Conversion.Range

/-! The test for compatible units. It gives an answer for any two tokens, and the answer says
whether an amount can be converted between them. What the conversion has against the units does not
depend on the amount, so that one amount is as good as any other
(`PrefixedUnit.isCompatible_predicts`). -/
namespace SIUnits

variable {a b c : String} {u v : PrefixedUnit} {x : Binary64}

namespace PrefixedUnit

/-- Both tokens stand for units, and the units have one root. -/
def SharesRoot (a b : String) : Prop :=
  ∃ u v, (resolve a).result = .ok u ∧ (resolve b).result = .ok v ∧ u.root = v.root

theorem sharesRoot_iff (ha : (resolve a).result = .ok u) (hb : (resolve b).result = .ok v) :
    SharesRoot a b ↔ u.root = v.root := by
  constructor
  · rintro ⟨u', v', ha', hb', hr⟩
    obtain rfl := Except.ok.inj (ha.symm.trans ha')
    obtain rfl := Except.ok.inj (hb.symm.trans hb')
    exact hr
  · intro hr
    exact ⟨u, v, ha, hb, hr⟩

theorem SharesRoot.symm (h : SharesRoot a b) : SharesRoot b a := by
  obtain ⟨u, v, ha, hb, hr⟩ := h
  exact ⟨v, u, hb, ha, hr.symm⟩

theorem SharesRoot.trans (h : SharesRoot a b) (h' : SharesRoot b c) : SharesRoot a c := by
  obtain ⟨u, v, ha, hb, hr⟩ := h
  have ⟨_, w, _, hc, _⟩ := h'
  exact ⟨u, w, ha, hc, hr.trans ((sharesRoot_iff hb hc).mp h')⟩

theorem sharesRoot_self_iff : SharesRoot a a ↔ isValid a = true := by
  rw [isValid_iff]
  constructor
  · rintro ⟨u, _, hu, -, -⟩
    exact ⟨u, hu⟩
  · rintro ⟨u, hu⟩
    exact ⟨u, u, hu, hu, rfl⟩

theorem isCompatible_of_resolve (ha : (resolve a).result = .ok u)
    (hb : (resolve b).result = .ok v) :
    (isCompatible a b).result = .ok (decide (u.root = v.root)) := by
  simp [isCompatible, isValid_iff.mpr ⟨u, ha⟩, isValid_iff.mpr ⟨v, hb⟩, ha, hb]

theorem isCompatible_of_not_isValid (h : ¬ (isValid a = true ∧ isValid b = true)) :
    (isCompatible a b).result = .ok false := by
  rw [← Bool.and_eq_true] at h
  rw [isCompatible, if_neg h]
  rfl

/-- Neither token is resolved unless the short test has accepted both, so that none of the two steps
can fail. -/
theorem exists_isCompatible (a b : String) :
    ∃ answer, (isCompatible a b).result = .ok answer ∧ (answer = true ↔ SharesRoot a b) := by
  by_cases hvalid : isValid a = true ∧ isValid b = true
  · obtain ⟨u, ha⟩ := isValid_iff.mp hvalid.1
    obtain ⟨v, hb⟩ := isValid_iff.mp hvalid.2
    refine ⟨_, isCompatible_of_resolve ha hb, ?_⟩
    rw [decide_eq_true_iff, sharesRoot_iff ha hb]
  · refine ⟨false, isCompatible_of_not_isValid hvalid, ?_⟩
    simp only [Bool.false_eq_true, false_iff]
    rintro ⟨u, v, ha, hb, -⟩
    exact hvalid ⟨isValid_iff.mpr ⟨u, ha⟩, isValid_iff.mpr ⟨v, hb⟩⟩

theorem isCompatible_eq_true_iff : (isCompatible a b).result = .ok true ↔ SharesRoot a b := by
  obtain ⟨answer, h, hiff⟩ := exists_isCompatible a b
  rw [h, Except.ok.injEq, hiff]

theorem isCompatible_comm (a b : String) :
    (isCompatible a b).result = (isCompatible b a).result := by
  obtain ⟨answer, h, hiff⟩ := exists_isCompatible a b
  obtain ⟨answer', h', hiff'⟩ := exists_isCompatible b a
  have hsymm : SharesRoot a b ↔ SharesRoot b a := ⟨SharesRoot.symm, SharesRoot.symm⟩
  rw [h, h', Except.ok.injEq, Bool.eq_iff_iff, hiff, hiff', hsymm]

end PrefixedUnit

namespace Amount

open PrefixedUnit (SharesRoot)

/-- The names of the failures that are about units. -/
def unitFailures : List String := ["UnknownRootUnit", "UnknownPrefix", "RootUnitMismatch"]

/-- The amount is not converted, for one of the units or for both of them together. -/
def RefusedForUnits (x : Binary64) (a b : String) : Prop :=
  ∃ f, ((number x).convert a b).result = .error (.failure f) ∧ f.kind.name ∈ unitFailures

theorem mem_unitFailures_of_unresolved {f : Failure} {token : String}
    (h : PrefixedUnit.Unresolved token f) : f.kind.name ∈ unitFailures := by
  rcases h with ⟨units, rfl⟩ | ⟨front, rfl⟩
  · exact List.mem_cons_self
  · exact List.mem_cons_of_mem _ List.mem_cons_self

theorem not_refusedForUnits_of_outcome
    (h : (∃ y, ((number x).convert a b).result = .ok y) ∨
      ∃ f, ((number x).convert a b).result = .error (.failure f) ∧
        f.kind.name = "ConversionOverflow") : ¬ RefusedForUnits x a b := by
  rintro ⟨g, hg, hmem⟩
  rcases h with ⟨y, hok⟩ | ⟨f, hover, hk⟩
  · rw [hok] at hg
    cases hg
  · rw [hover] at hg
    cases hg
    rw [hk] at hmem
    simp [unitFailures] at hmem

section NotBelowZero

variable (hf : x.isFinite = true) (hb : x.isBelowZero = false)
include hf hb

theorem convert_number_of_notBelowZero : ((number x).convert a b).result =
    (Query.convert ⟨x, x.text, a, b⟩).result.map (·.quantity) :=
  convert_of_notBelowZero hf hb

theorem refusedForUnits_of_query {f : Failure}
    (h : (Query.convert ⟨x, x.text, a, b⟩).result = .error (.failure f))
    (hk : f.kind.name ∈ unitFailures) : RefusedForUnits x a b := by
  refine ⟨f, ?_, hk⟩
  rw [convert_number_of_notBelowZero hf hb, h]
  rfl

theorem refusedForUnits_of_not_sharesRoot (h : ¬ SharesRoot a b) : RefusedForUnits x a b := by
  rcases PrefixedUnit.resolve_cases a with ⟨u, ha⟩ | ⟨f, ha, hwhy⟩
  swap
  · exact refusedForUnits_of_query hf hb (Query.convert_of_source ha)
      (mem_unitFailures_of_unresolved hwhy)
  rcases PrefixedUnit.resolve_cases b with ⟨v, hv⟩ | ⟨f, hv, hwhy⟩
  swap
  · exact refusedForUnits_of_query hf hb (Query.convert_of_target ha hv)
      (mem_unitFailures_of_unresolved hwhy)
  have hr : u.root ≠ v.root := mt (PrefixedUnit.sharesRoot_iff ha hv).mpr h
  refine refusedForUnits_of_query hf hb (Query.convert_of_roots ha hv hr) ?_
  change "RootUnitMismatch" ∈ unitFailures
  simp [unitFailures]

/-- Between units of one root only the size of the result may be a reason to refuse. -/
theorem convert_of_sharesRoot (h : SharesRoot a b) :
    (∃ y, ((number x).convert a b).result = .ok y) ∨
      ∃ f, ((number x).convert a b).result = .error (.failure f) ∧
        f.kind.name = "ConversionOverflow" := by
  obtain ⟨u, v, ha, hv, hr⟩ := h
  rw [convert_number_of_notBelowZero hf hb]
  rcases @Query.convert_ok_or_overflow ⟨x, x.text, a, b⟩ u v ha hv hr ⟨hf, hb⟩ with
    ⟨r, hok⟩ | ⟨hover, -⟩
  · exact Or.inl ⟨r.quantity, by rw [hok, Except.map]⟩
  · exact Or.inr ⟨_, by rw [hover, Except.map], rfl⟩

theorem not_refusedForUnits_iff_sharesRoot : ¬ RefusedForUnits x a b ↔ SharesRoot a b := by
  constructor
  · exact not_imp_comm.mp (refusedForUnits_of_not_sharesRoot hf hb)
  · intro h
    exact not_refusedForUnits_of_outcome (convert_of_sharesRoot hf hb h)

theorem not_refusedForUnits_iff : ¬ RefusedForUnits x a b ↔
    (∃ y, ((number x).convert a b).result = .ok y) ∨
      ∃ f, ((number x).convert a b).result = .error (.failure f) ∧
        f.kind.name = "ConversionOverflow" := by
  constructor
  · intro h
    exact convert_of_sharesRoot hf hb ((not_refusedForUnits_iff_sharesRoot hf hb).mp h)
  · exact not_refusedForUnits_of_outcome

end NotBelowZero

end Amount

/-- Compatibility predicts conversion. The test answers for any two tokens, and it says yes if and
only if the units are no reason to refuse a quantity: neither any quantity nor, which is the same,
some quantity. What may still happen to a quantity is that its result is too large. So the test is
symmetric and transitive, and a token is compatible with itself if and only if it is a unit. -/
theorem PrefixedUnit.isCompatible_predicts :
    (∀ a b, ∃ answer, (isCompatible a b).result = .ok answer) ∧
    (∀ a b, (isCompatible a b).result = .ok true ↔
      ∀ x : Binary64, x.isFinite = true → .zero ≤ x → ¬ Amount.RefusedForUnits x a b) ∧
    (∀ a b, (isCompatible a b).result = .ok true ↔
      ∃ x : Binary64, x.isFinite = true ∧ .zero ≤ x ∧ ¬ Amount.RefusedForUnits x a b) ∧
    (∀ (x : Binary64) (a b : String), x.isFinite = true → .zero ≤ x →
      (¬ Amount.RefusedForUnits x a b ↔
        (∃ y, ((Amount.number x).convert a b).result = .ok y) ∨
          ∃ f, ((Amount.number x).convert a b).result = .error (.failure f) ∧
            f.kind.name = "ConversionOverflow")) ∧
    (∀ a b, (isCompatible a b).result = (isCompatible b a).result) ∧
    (∀ a b c, (isCompatible a b).result = .ok true → (isCompatible b c).result = .ok true →
      (isCompatible a c).result = .ok true) ∧
    ∀ a, (isCompatible a a).result = .ok true ↔ isValid a = true := by
  have hiff : ∀ (x : Binary64) (a b : String), x.isFinite = true → .zero ≤ x →
      (¬ Amount.RefusedForUnits x a b ↔ SharesRoot a b) := by
    intro x a b hf h0
    exact Amount.not_refusedForUnits_iff_sharesRoot hf (Binary64.isBelowZero_of_zero_le h0)
  -- As the units are all that decides, zero stands for any other quantity.
  have hzero : Binary64.zero.isFinite = true ∧ Binary64.zero ≤ .zero := by decide
  simp only [isCompatible_eq_true_iff]
  refine ⟨fun a b => ?_, fun a b => ?_, fun a b => ?_, fun x a b hf h0 => ?_, isCompatible_comm,
    fun a b c => SharesRoot.trans, fun a => sharesRoot_self_iff⟩
  · obtain ⟨answer, h, -⟩ := exists_isCompatible a b
    exact ⟨answer, h⟩
  · constructor
    · intro h x hf h0
      exact (hiff x a b hf h0).mpr h
    · intro h
      exact (hiff .zero a b hzero.1 hzero.2).mp (h .zero hzero.1 hzero.2)
  · constructor
    · intro h
      exact ⟨.zero, hzero.1, hzero.2, (hiff .zero a b hzero.1 hzero.2).mpr h⟩
    · rintro ⟨x, hf, h0, h⟩
      exact (hiff x a b hf h0).mp h
  · exact Amount.not_refusedForUnits_iff hf (Binary64.isBelowZero_of_zero_le h0)

end SIUnits
