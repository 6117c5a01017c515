import Mathlib.Data.List.Find
import SIUnits.Proofs.Unit.Grammar

/-! The order of the unit tables decides nothing. Both searches take their first hit, and for one
token there is never more than one value to hit: no root symbol is the end of another, and rows
with one prefix symbol agree. The only trace of the order is the list of units in the failure of a
token without a root (`PrefixedUnit.resolveIn_reordered`). -/
namespace SIUnits

theorem Root.ending?_of_perm {roots roots' : List Root} (h : roots.Perm roots') (token : String) :
    ending? roots token = ending? roots' token := by
  refine List.find?_eq_find?_of_perm h ?_
  rintro r ⟨-, hr⟩ r' ⟨-, hr'⟩
  exact eq_of_ends (of_decide_eq_true hr) (of_decide_eq_true hr')

namespace SIPrefix

variable {tables : List (List SIPrefix)}

/-- Rows with one symbol agree, so it does not matter which of them is met first. -/
theorem ofSymbol?_of_perm (h : tables.flatten.Perm UnitTables.standard.prefixTables.flatten)
    (s : String) : ofSymbol? tables s = ofSymbol? UnitTables.standard.prefixTables s := by
  rw [ofSymbol?_eq_find?_flatten, ofSymbol?_eq_find?_flatten]
  refine List.find?_eq_find?_of_perm h ?_
  rintro p ⟨hmem, hp⟩ q ⟨hmem', hq⟩
  apply rows_agree p (h.subset hmem) q (h.subset hmem')
  exact (of_decide_eq_true hp).trans (of_decide_eq_true hq).symm

end SIPrefix

namespace UnitTables

/-- The same rows in another order. Tables of prefixes may change places, and so may the rows in
them. -/
structure Reorders (tables tables' : UnitTables) : Prop where
  roots : tables.roots.Perm tables'.roots
  prefixes : tables.prefixTables.flatten.Perm tables'.prefixTables.flatten

namespace Reorders

variable {tables tables' : UnitTables}

theorem of_perm (hr : tables.roots.Perm tables'.roots)
    (hp : tables.prefixTables.Perm tables'.prefixTables) : tables.Reorders tables' :=
  ⟨hr, hp.flatten⟩

theorem ending? (h : tables.Reorders tables') (token : String) :
    Root.ending? tables.roots token = Root.ending? tables'.roots token :=
  Root.ending?_of_perm h.roots token

theorem exponentOf? (h : tables.Reorders .standard) (s : String) :
    tables.exponentOf? s = standard.exponentOf? s := by
  rw [UnitTables.exponentOf?, UnitTables.exponentOf?, SIPrefix.ofSymbol?_of_perm h.prefixes]

end Reorders

end UnitTables

namespace PrefixedUnit

variable {tables : UnitTables} {token : String}

/-- The failure of a token that ends with none of the roots, which are listed as the tables have
them. -/
def noRoot (tables : UnitTables) (token : String) : Failure :=
  .ofCause (.unknownRootUnit token (.list (tables.roots.map fun root => .text root.symbol)))

theorem resolveIn_of_ending?_eq_none (h : Root.ending? tables.roots token = none) :
    resolveIn tables token = .fail (.failure (noRoot tables token)) := by
  rw [resolveIn, h]
  rfl

/-- With a root at the end of the token the two runs go the same way, to the last record. -/
theorem resolveIn_congr {root : Root} (h : tables.Reorders .standard)
    (hroot : Root.ending? UnitTables.standard.roots token = some root) :
    resolveIn tables token = resolveIn .standard token := by
  rw [resolveIn, resolveIn, h.ending?, hroot]
  simp only [h.exponentOf?]

theorem isValidIn_congr (h : tables.Reorders .standard) (token : String) :
    isValidIn tables token = isValidIn .standard token := by
  rw [isValidIn, isValidIn, h.ending?]
  simp only [h.exponentOf?]

/-- Whatever the order of the tables, they give a token the same root, a prefix the same power of
ten, and the whole token the same answer; a token without a root fails in the same way, with the
roots listed in the order of the tables. -/
theorem resolveIn_reordered (h : tables.Reorders .standard) (token front : String) :
    Root.ending? tables.roots token = Root.ending? UnitTables.standard.roots token ∧
    tables.exponentOf? front = UnitTables.standard.exponentOf? front ∧
    isValidIn tables token = isValid token ∧
    ((∃ root ∈ tables.roots, root.Ends token) ∧ resolveIn tables token = resolve token ∨
      (∀ root ∈ tables.roots, ¬ root.Ends token) ∧
        resolveIn tables token = .fail (.failure (noRoot tables token)) ∧
        resolve token = .fail (.failure (noRoot .standard token))) := by
  refine ⟨h.ending? token, h.exponentOf? front, isValidIn_congr h token, ?_⟩
  cases hroot : Root.ending? tables.roots token with
  | some root =>
    have hends : root.Ends token := by simpa using List.find?_some hroot
    refine Or.inl ⟨⟨root, List.mem_of_find?_eq_some hroot, hends⟩, ?_⟩
    exact resolveIn_congr h ((h.ending? token).symm.trans hroot)
  | none =>
    refine Or.inr ⟨Root.ending?_eq_none_iff.mp hroot, resolveIn_of_ending?_eq_none hroot, ?_⟩
    exact resolveIn_of_ending?_eq_none ((h.ending? token).symm.trans hroot)

/-- The roots from the last to the first, and the two tables of prefixes exchanged. -/
theorem resolveIn_reordered_backwards :
    let tables : UnitTables := ⟨Root.all.reverse, [SIPrefix.yoctoToYotta, SIPrefix.centiToHecto]⟩
    tables.Reorders .standard ∧ Root.ending? tables.roots "mcd" = some .candela ∧
      tables.exponentOf? "m" = some (-3) ∧ isValidIn tables "mcd" = true ∧
      resolveIn tables "mcd" = resolve "mcd" := by
  intro tables
  have h : tables.Reorders .standard := .of_perm (List.reverse_perm _) (.swap _ _ _)
  obtain ⟨hroot, hexp, hvalid, hsame | ⟨hnone, -⟩⟩ := resolveIn_reordered h "mcd" "m"
  · exact ⟨h, hroot.trans (by decide), hexp.trans (by decide), hvalid.trans (by decide), hsame.2⟩
  · exact absurd (by decide) (hnone .candela (by decide))

end PrefixedUnit

end SIUnits
