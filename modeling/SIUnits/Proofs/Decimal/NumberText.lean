import SIUnits.Decimal.NumberText
import SIUnits.Proofs.Decimal.ReadBack

/-! A decimal literal is read as a number in the same way with all that texts of numbers may have
beside it (`Binary64.ofText?_of_literal`): there is no white space around it to strip, no digit of
another script to replace, and no underscore to take out. -/
namespace SIUnits

namespace Text

theorem ungroup?_eq_some {cs : List Char} (h : '_' ∉ cs) (before : Char) :
    ungroup? before cs = some cs := by
  induction cs generalizing before with
  | nil => rfl
  | cons c cs ih =>
    rw [List.mem_cons, not_or] at h
    have hc : c ≠ '_' := fun hc => h.1 hc.symm
    unfold ungroup?
    rw [if_pos hc, ih h.2, Option.map_some]

theorem stripNumber_eq_self {cs : List Char} (h : ∀ c ∈ cs, isNumberBlank c = false) :
    stripNumber cs = cs := by
  have hdrop : ∀ ds : List Char, ds ⊆ cs → ds.dropWhile isNumberBlank = ds := by
    intro ds hds
    cases ds with
    | nil => rfl
    | cons d ds =>
      apply List.dropWhile_cons_of_neg
      rw [h d (hds List.mem_cons_self)]
      exact Bool.false_ne_true
  unfold stripNumber
  rw [hdrop cs (List.Subset.refl cs), hdrop cs.reverse (List.reverse_subset.mpr (.refl cs)),
    List.reverse_reverse]

end Text

open Decimal (Literal)

namespace Decimal.Literal

variable {cs : List Char}

theorem not_isNumberBlank_of_subset (h : cs ⊆ alphabet) :
    ∀ c ∈ cs, Text.isNumberBlank c = false := by
  have hnone : alphabet.all (!Text.isNumberBlank ·) = true := by decide
  intro c hc
  simpa using List.all_eq_true.mp hnone c (h hc)

theorem map_toAsciiDigit_of_subset (h : cs ⊆ alphabet) : cs.map Text.toAsciiDigit = cs := by
  have hkept : alphabet.all (fun a => Text.toAsciiDigit a = a) = true := by decide
  conv_rhs => rw [← List.map_id cs]
  apply List.map_congr_left
  intro c hc
  simpa using List.all_eq_true.mp hkept c (h hc)

end Decimal.Literal

theorem Binary64.ofText?_of_literal {s : String} {l : Literal} (h : Literal.ofString? s = some l) :
    ofText? s = some l.toBinary64 := by
  have hs : s.toList ⊆ Literal.alphabet := by
    rw [← Literal.toChars_of_ofChars? h]
    exact l.toChars_subset_alphabet
  have hplain : '_' ∉ s.toList := fun hmem => absurd (hs hmem) (by decide)
  unfold ofText?
  rw [Text.stripNumber_eq_self (Literal.not_isNumberBlank_of_subset hs),
    Literal.map_toAsciiDigit_of_subset hs, Text.ungroup?_eq_some hplain]
  dsimp only
  rw [show Literal.ofChars? s.toList = some l from h]

end SIUnits
