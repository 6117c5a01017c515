import SIUnits.Console.Basic
import SIUnits.Proofs.Conversion.Steps

/-! The text that answers a line. It is the line with the converted quantity put in front of the
target unit, in characters that every console shows as they are (`Conversion.Answers.line_text`).
Nothing is lost on the way: the result is read back from its text
(`Conversion.Answers.ofText?_text`), so lines with one text are one line
(`Conversion.text_lossless`). -/
namespace SIUnits

open Console (isLiteral)

/-- What holds of the characters of all symbols holds of those of a unit. -/
theorem PrefixedUnit.all_of_resolve {P : Char → Bool}
    (hsymbol : ∀ p ∈ UnitTables.standard.prefixes, p.symbol.toList.all P = true)
    (hroot : ∀ root : Root, root.symbol.toList.all P = true) {token : String} {u : PrefixedUnit}
    (h : (resolve token).result = .ok u) : token.toList.all P = true := by
  obtain ⟨p, root, hs, -⟩ := resolve_eq_ok_iff.mp h
  rw [hs.token_eq, String.toList_append, List.all_append, hsymbol p hs.prefix_mem, hroot,
    Bool.and_self]

theorem PrefixedUnit.isLiteral_of_resolve {token : String} {u : PrefixedUnit}
    (h : (resolve token).result = .ok u) : token.toList.all isLiteral = true :=
  all_of_resolve (by decide) (fun root => by cases root <;> decide) h

theorem Query.all_of_quantityOf {P : Char → Bool}
    (halphabet : Decimal.Literal.alphabet.all P = true) {n : String} {x : Binary64}
    (h : quantityOf n = .ok x) : n.toList.all P = true := by
  rw [List.all_eq_true] at halphabet ⊢
  exact fun c hc => halphabet c (subset_alphabet_of_quantityOf h hc)

theorem Query.isLiteral_of_quantityOf {n : String} {x : Binary64} (h : quantityOf n = .ok x) :
    n.toList.all isLiteral = true :=
  all_of_quantityOf (by decide) h

namespace Conversion

/-- The result that a text shows. -/
def ofText? (s : String) : Option Conversion :=
  match Text.splitSpaces s with
  | [number, source, separator, quantity, target] =>
    if separator = "=" then
      match Query.quantityOf number, Query.quantityOf quantity with
      | .ok x, .ok y => some ⟨y, target, ⟨x, number, source, target⟩⟩
      | _, _ => none
    else none
  | _ => none

/-- How the result of a line goes back to the line: its query holds the line's fields, a quantity
and two units, its unit is the one asked for, and its quantity is finite with a plus sign. -/
structure Answers (r : Conversion) (line : String) : Prop where
  fields : Text.splitSpaces line =
    [r.query.quantityText, r.query.sourceUnit, "=", r.query.targetUnit]
  number : Query.quantityOf r.query.quantityText = .ok r.query.quantity
  source : ∃ u, (PrefixedUnit.resolve r.query.sourceUnit).result = .ok u
  target : ∃ v, (PrefixedUnit.resolve r.query.targetUnit).result = .ok v
  unit_eq : r.unit = r.query.targetUnit
  plus : ∃ z, r.quantity = .finite false z

variable {line line' : String} {r r' : Conversion}

theorem answers_of_convertLine (h : (convertLine line).result = .ok r) : r.Answers line := by
  cases hp : (Query.parse line).result with
  | error fault =>
    rw [convertLine_of_parse_error hp] at h
    cases h
  | ok q =>
    obtain ⟨hfields, hnumber⟩ := Query.fields_of_parse hp
    obtain ⟨y, hy⟩ := Query.exists_of_quantityOf hnumber
    rw [convertLine_of_parse hp] at h
    obtain ⟨hsource, htarget⟩ := Query.resolved_of_convert h
    rcases Query.convert_cases hy with ⟨z, hz⟩ | ⟨f, hf, -⟩
    · rw [hz] at h
      cases h
      exact ⟨hfields, hnumber, hsource, htarget, rfl, z, rfl⟩
    · rw [hf] at h
      cases h

theorem exists_of_text {text : String}
    (h : (convertLine line).result.toOption.map Conversion.text = some text) :
    ∃ r, (convertLine line).result = .ok r ∧ r.text = text := by
  obtain ⟨r, hr, htext⟩ := Option.map_eq_some_iff.mp h
  cases hresult : (convertLine line).result with
  | error fault =>
    rw [hresult] at hr
    cases hr
  | ok r' =>
    rw [hresult] at hr
    cases hr
    exact ⟨r, rfl, htext⟩

/-- A text names the query as it was entered, then the quantity and its unit. -/
theorem text_eq_intercalate (r : Conversion) : r.text = " ".intercalate
    [r.query.quantityText, r.query.sourceUnit, "=", r.quantity.text, r.unit] := by
  apply String.toList_inj.mp
  simp [text]

namespace Answers

theorem line_eq (h : r.Answers line) :
    queryLine r.query.quantityText r.query.sourceUnit r.query.targetUnit = line := by
  rw [queryLine_eq_intercalate, ← h.fields, Text.intercalate_splitSpaces]

theorem quantityOf_text (h : r.Answers line) :
    Query.quantityOf r.quantity.text = .ok r.quantity := by
  obtain ⟨z, hz⟩ := h.plus
  rw [hz, Query.quantityOf_text]

theorem isSome_ofString?_text (h : r.Answers line) :
    (Decimal.Literal.ofString? r.quantity.text).isSome := by
  obtain ⟨z, hz⟩ := h.plus
  rw [hz, Binary64.ofString?_text, Option.isSome_some]

theorem splitSpaces_text (h : r.Answers line) : Text.splitSpaces r.text =
    [r.query.quantityText, r.query.sourceUnit, "=", r.quantity.text, r.unit] := by
  have hline : ∀ part ∈ [r.query.quantityText, r.query.sourceUnit, "=", r.query.targetUnit],
      ' ' ∉ part.toList := by
    intro part hpart
    exact Text.space_not_mem_of_mem_splitSpaces (h.fields ▸ hpart)
  have hquantity : ' ' ∉ r.quantity.text.toList := by
    obtain ⟨z, hz⟩ := h.plus
    rw [hz]
    exact Binary64.space_not_mem_text false z
  rw [text_eq_intercalate]
  apply Text.splitSpaces_intercalate (List.cons_ne_nil _ _)
  rw [h.unit_eq]
  simp_all

theorem ofText?_text (h : r.Answers line) : ofText? r.text = some r := by
  rw [ofText?, h.splitSpaces_text]
  simp only [h.number, h.quantityOf_text, if_true]
  obtain ⟨y, unit, ⟨x, number, source, target⟩⟩ := r
  obtain rfl : unit = target := h.unit_eq
  rfl

theorem isLiteral_text (h : r.Answers line) : r.text.toList.all isLiteral = true := by
  obtain ⟨u, hu⟩ := h.source
  obtain ⟨v, hv⟩ := h.target
  have hnumber := Query.isLiteral_of_quantityOf h.number
  have hsource := PrefixedUnit.isLiteral_of_resolve hu
  have hquantity := Query.isLiteral_of_quantityOf h.quantityOf_text
  have htarget := PrefixedUnit.isLiteral_of_resolve hv
  have hspace : " ".toList.all isLiteral = true := by decide
  have hequals : " = ".toList.all isLiteral = true := by decide
  rw [text, h.unit_eq]
  simp only [String.toList_append, List.all_append, hnumber, hspace, hsource, hequals, hquantity,
    htarget, Bool.and_self]

/-- A result is shown as it is. -/
theorem line_text (h : r.Answers line) {console : Console} (hconsole : console.Literal) :
    console.line r.text = r.text ++ "\n" :=
  hconsole r.text h.isLiteral_text

end Answers

/-- The text of a result is lossless. Between its spaces stand the fields of the line that was
answered with the converted quantity as the one before the last, and this quantity is a literal that
is read back to the very double. So the text gives the result back, and no two lines share it. -/
theorem text_lossless (h : (convertLine line).result = .ok r) :
    (∃ n a v b, Text.splitSpaces r.text = [n, a, "=", v, b] ∧
      n ++ " " ++ a ++ " = " ++ b = line ∧
      (Decimal.Literal.ofString? v).isSome ∧ Query.quantityOf v = .ok r.quantity ∧
      a = r.query.sourceUnit ∧ b = r.unit ∧ r.unit = r.query.targetUnit) ∧
    ofText? r.text = some r ∧
    ∀ line' r', (convertLine line').result = .ok r' → r'.text = r.text → line' = line := by
  have ha := answers_of_convertLine h
  refine ⟨?_, ha.ofText?_text, ?_⟩
  · exact ⟨_, _, _, _, ha.splitSpaces_text, by rw [ha.unit_eq]; exact ha.line_eq,
      ha.isSome_ofString?_text, ha.quantityOf_text, rfl, rfl, ha.unit_eq⟩
  · intro line' r' h' htext
    have ha' := answers_of_convertLine h'
    -- Both results are what is read from the one text.
    have hr : r' = r := Option.some.inj <| by
      rw [← ha'.ofText?_text, htext, ha.ofText?_text]
    rw [← ha'.line_eq, hr, ha.line_eq]

/-- The number is repeated as it was entered, and the large quantity is read from an exponent. -/
theorem text_lossless_terametres : ∃ r, (convertLine "20.0 Tm = mm").result = .ok r ∧
    r.text = "20.0 Tm = 2e+16 mm" ∧ ofText? "20.0 Tm = 2e+16 mm" = some r := by
  have h : (convertLine "20.0 Tm = mm").result.toOption.map text = some "20.0 Tm = 2e+16 mm" := by
    decide +kernel
  cases hr : (convertLine "20.0 Tm = mm").result with
  | error fault =>
    rw [hr] at h
    cases h
  | ok r =>
    have ht : r.text = "20.0 Tm = 2e+16 mm" := by simpa [hr, Except.toOption] using h
    exact ⟨r, rfl, ht, ht ▸ (text_lossless hr).2.1⟩

end Conversion

end SIUnits
