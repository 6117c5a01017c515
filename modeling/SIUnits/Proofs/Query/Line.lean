import SIUnits.Proofs.Decimal.NumberText
import SIUnits.Proofs.Field.Valid
import SIUnits.Query.Parse

/-! Query lines. A line with four fields and an equals sign as the third is read as the query of its
fields if its number is a quantity (`Query.parse_of_fields`), no other line is read as a query
(`Query.fields_of_parse`), and a quantity that was read is finite and has a plus sign
(`Query.exists_of_quantityOf`). -/
namespace SIUnits

namespace Text

/-- Joining the parts of a text with spaces gives the text back. -/
theorem intercalate_splitSpaces (s : String) : " ".intercalate (splitSpaces s) = s := by
  have hparts : (splitSpaces s).map String.toList = s.toList.splitOn ' ' := by
    simp [splitSpaces, Function.comp_def]
  have hspace : " ".toList = [' '] := rfl
  rw [← String.toList_inj, String.toList_intercalate, hparts, hspace, List.intercalate_splitOn]

/-- Parts that hold no space are what their join is split into. -/
theorem splitSpaces_intercalate {parts : List String} (hne : parts ≠ [])
    (h : ∀ p ∈ parts, ' ' ∉ p.toList) : splitSpaces (" ".intercalate parts) = parts := by
  have hspace : " ".toList = [' '] := rfl
  rw [splitSpaces, String.toList_intercalate, hspace,
    List.splitOn_intercalate ' ' (by simpa using h) (by simpa using hne), List.map_map]
  simp [Function.comp_def]

private theorem not_mem_of_mem_splitOn {c : Char} {cs part : List Char}
    (h : part ∈ cs.splitOn c) : c ∉ part := by
  induction cs generalizing part with
  | nil => simp_all
  | cons d ds ih =>
    rw [List.splitOn_cons_eq_if_modifyHead] at h
    split at h
    · next hd =>
      rcases List.mem_cons.mp h with rfl | h
      · exact List.not_mem_nil
      · exact ih h
    · next hd =>
      match hs : ds.splitOn c with
      | [] => simp [hs] at h
      | first :: rest =>
        rw [hs, List.modifyHead_cons, List.mem_cons] at h
        rw [hs] at ih
        rcases h with rfl | h
        · have hdc : c ≠ d := fun hcd => hd (beq_iff_eq.mpr hcd.symm)
          exact List.not_mem_cons_of_ne_of_not_mem hdc (ih List.mem_cons_self)
        · exact ih (List.mem_cons_of_mem _ h)

theorem space_not_mem_of_mem_splitSpaces {s part : String} (h : part ∈ splitSpaces s) :
    ' ' ∉ part.toList := by
  obtain ⟨cs, hcs, rfl⟩ := List.mem_map.mp h
  rw [String.toList_ofList]
  exact not_mem_of_mem_splitOn hcs

end Text

/-- The line of a query with these fields. -/
def queryLine (number source target : String) : String :=
  number ++ " " ++ source ++ " = " ++ target

theorem queryLine_eq_intercalate (n a b : String) :
    queryLine n a b = " ".intercalate [n, a, "=", b] := by
  apply String.toList_inj.mp
  simp [queryLine]

theorem splitSpaces_queryLine {n a b : String} (hn : ' ' ∉ n.toList) (ha : ' ' ∉ a.toList)
    (hb : ' ' ∉ b.toList) : Text.splitSpaces (queryLine n a b) = [n, a, "=", b] := by
  rw [queryLine_eq_intercalate]
  exact Text.splitSpaces_intercalate (by simp) (by simp [hn, ha, hb])

theorem Binary64.withoutSignedZero_of_notBelowZero {s : Bool} {x : Magnitude}
    (h : (Binary64.finite s x).isBelowZero = false) :
    (Binary64.finite s x).withoutSignedZero = .finite false x := by
  cases s with
  | false => rfl
  | true =>
    have hz : x = .zero := Magnitude.eq_zero_of_significand (by simpa [isBelowZero] using h)
    rw [hz]
    rfl

/-- A finite double that is not the negative zero has a plus sign, or is below zero. -/
theorem Binary64.plus_or_belowZero {v : Binary64} (hv : v.isFinite = true)
    (hz : v ≠ .finite true .zero) :
    (∃ x, v = .finite false x) ∨ ∃ x, v = .finite true x ∧ v.isBelowZero = true := by
  match v with
  | .finite false x => exact Or.inl ⟨x, rfl⟩
  | .finite true x =>
    refine Or.inr ⟨x, rfl, ?_⟩
    have hx : x.significand ≠ 0 := fun h => hz (by rw [Magnitude.eq_zero_of_significand h])
    simpa [isBelowZero] using hx
  | .infinite s => cases hv
  | .nan => cases hv

namespace Query

/-- A literal is read to a finite double or to an infinity, and never to `nan`. -/
theorem toBinary64_cases (l : Decimal.Literal) :
    (∃ x, l.toBinary64 = .finite l.isNegative x) ∨ l.toBinary64 = .infinite l.isNegative := by
  unfold Decimal.Literal.toBinary64
  cases l.size? with
  | none => exact Or.inr rfl
  | some x => exact Or.inl ⟨x, rfl⟩

theorem quantityOf_of_not_literal {n : String} (h : Decimal.Literal.ofString? n = none) :
    quantityOf n =
      .error (.failure ⟨.invalidNumber n, [("reason", .text "not a decimal literal")]⟩) := by
  simp only [quantityOf, h]

variable {n : String} {l : Decimal.Literal}

theorem quantityOf_of_infinite (h : Decimal.Literal.ofString? n = some l)
    (hf : l.toBinary64.isFinite = false) :
    quantityOf n = .error (.failure ⟨.invalidNumber n, [("reason", .text "not finite")]⟩) := by
  simp [quantityOf, h, Binary64.ofText?_of_literal h, hf]

theorem quantityOf_of_negative (h : Decimal.Literal.ofString? n = some l)
    (hf : l.toBinary64.isFinite = true) (hb : l.toBinary64.isBelowZero = true) :
    quantityOf n =
      .error (.failure (.ofCause (.negativeNumber n (some (.number l.toBinary64))))) := by
  simp [quantityOf, h, Binary64.ofText?_of_literal h, hf, hb]

theorem quantityOf_of_quantity (h : Decimal.Literal.ofString? n = some l)
    (hf : l.toBinary64.isFinite = true) (hb : l.toBinary64.isBelowZero = false) :
    quantityOf n = .ok l.toBinary64.withoutSignedZero := by
  simp [quantityOf, h, Binary64.ofText?_of_literal h, hf, hb]

/-- A token that is matched is read, so a number is only refused with a failure. -/
theorem quantityOf_cases (n : String) :
    (∃ x, quantityOf n = .ok x) ∨ ∃ f, quantityOf n = .error (.failure f) := by
  cases hl : Decimal.Literal.ofString? n with
  | none => exact Or.inr ⟨_, quantityOf_of_not_literal hl⟩
  | some l =>
    cases hf : l.toBinary64.isFinite with
    | false => exact Or.inr ⟨_, quantityOf_of_infinite hl hf⟩
    | true =>
      cases hb : l.toBinary64.isBelowZero with
      | true => exact Or.inr ⟨_, quantityOf_of_negative hl hf hb⟩
      | false => exact Or.inl ⟨_, quantityOf_of_quantity hl hf hb⟩

theorem quantityOf_text (x : Magnitude) :
    quantityOf (Binary64.text (.finite false x)) = .ok (.finite false x) := by
  have h := Binary64.toBinary64_literal false x
  have hq := quantityOf_of_quantity (Binary64.ofString?_text false x) (by rw [h]; rfl)
    (by rw [h]; rfl)
  rwa [h] at hq

theorem quantityOf_text_of_belowZero {x : Magnitude}
    (h : (Binary64.finite true x).isBelowZero = true) :
    quantityOf (Binary64.text (.finite true x)) =
      .error (.failure ⟨.negativeNumber (Binary64.text (.finite true x))
        (some (.number (.finite true x))), []⟩) := by
  have hread := Binary64.toBinary64_literal true x
  have hq := quantityOf_of_negative (Binary64.ofString?_text true x) (by rw [hread]; rfl)
    (by rw [hread]; exact h)
  rwa [hread] at hq

theorem exists_of_quantityOf {x : Binary64} (h : quantityOf n = .ok x) :
    ∃ y, x = .finite false y := by
  cases hl : Decimal.Literal.ofString? n with
  | none =>
    rw [quantityOf_of_not_literal hl] at h
    cases h
  | some l =>
    rcases toBinary64_cases l with ⟨y, hy⟩ | hinf
    · have hf : l.toBinary64.isFinite = true := by rw [hy]; rfl
      cases hb : l.toBinary64.isBelowZero with
      | true =>
        rw [quantityOf_of_negative hl hf hb] at h
        cases h
      | false =>
        rw [quantityOf_of_quantity hl hf hb, hy] at h
        rw [hy] at hb
        exact ⟨y, by rw [← Except.ok.inj h, Binary64.withoutSignedZero_of_notBelowZero hb]⟩
    · rw [quantityOf_of_infinite hl (by rw [hinf]; rfl)] at h
      cases h

theorem subset_alphabet_of_quantityOf {x : Binary64} (h : quantityOf n = .ok x) :
    n.toList ⊆ Decimal.Literal.alphabet := by
  cases hl : Decimal.Literal.ofString? n with
  | none =>
    rw [quantityOf_of_not_literal hl] at h
    cases h
  | some l =>
    rw [← Decimal.Literal.toChars_of_ofChars? hl]
    exact l.toChars_subset_alphabet

theorem valid_of_plus (y : Magnitude) (n a b : String) : Query.Valid ⟨.finite false y, n, a, b⟩ :=
  ⟨rfl, rfl⟩

/-- The quantity of a query that keeps the rules has a plus sign, or it is the negative zero. -/
theorem Valid.quantity_cases {q : Query} (h : q.Valid) :
    (∃ x, q.quantity = .finite false x) ∨ q.quantity = .finite true .zero := by
  by_cases hz : q.quantity = .finite true .zero
  · exact Or.inr hz
  · rcases Binary64.plus_or_belowZero h.finite hz with hx | ⟨x, -, hb⟩
    · exact Or.inl hx
    · rw [h.notBelowZero] at hb
      cases hb

variable {line a b e : String}

/-- A line with the fields of a query is read as the query if its number is a quantity. -/
theorem parse_of_fields (h : Text.splitSpaces line = [n, a, "=", b]) :
    (parse line).result = match quantityOf n with
      | .ok x => .ok ⟨x, n, a, b⟩
      | .error fault => .error fault := by
  cases hq : quantityOf n with
  | error fault => simp [parse, h, hq]
  | ok x =>
    obtain ⟨y, rfl⟩ := exists_of_quantityOf hq
    simp [parse, h, hq, (valid_of_plus y n a b).checked]

theorem parse_of_separator (h : Text.splitSpaces line = [n, a, e, b]) (he : e ≠ "=") :
    (parse line).result = .error (.failure
      ⟨.malformedQuery line (some (.integer 4)), [("separator", .text e)]⟩) := by
  simp [parse, h, he]

theorem parse_of_fieldCount (h : (Text.splitSpaces line).length ≠ 4) :
    (parse line).result = .error (.failure
      ⟨.malformedQuery line (some (.integer (Text.splitSpaces line).length)), []⟩) := by
  unfold parse
  split
  · next hs => rw [hs] at h; exact absurd rfl h
  · rfl

/-- A line that is read as a query consists of the query's fields. -/
theorem fields_of_parse {q : Query} (h : (parse line).result = .ok q) :
    Text.splitSpaces line = [q.quantityText, q.sourceUnit, "=", q.targetUnit] ∧
      quantityOf q.quantityText = .ok q.quantity := by
  match hs : Text.splitSpaces line with
  | [n, a, e, b] =>
    by_cases he : e = "="
    · subst he
      rw [parse_of_fields hs] at h
      cases hq : quantityOf n with
      | error fault => simp [hq] at h
      | ok x =>
        obtain rfl : Query.mk x n a b = q := by simpa [hq] using h
        exact ⟨rfl, hq⟩
    · rw [parse_of_separator hs he] at h
      cases h
  | [] | [_] | [_, _] | [_, _, _] | _ :: _ :: _ :: _ :: _ :: _ =>
    rw [parse_of_fieldCount (by simp [hs])] at h
    cases h

/-- A line is read as a query with a quantity, or it is reported why not. -/
theorem parse_cases (line : String) :
    (∃ y n a b, (parse line).result = .ok ⟨.finite false y, n, a, b⟩) ∨
      ∃ f, (parse line).result = .error (.failure f) := by
  match hs : Text.splitSpaces line with
  | [n, a, e, b] =>
    by_cases he : e = "="
    · subst he
      rw [parse_of_fields hs]
      rcases quantityOf_cases n with ⟨x, hq⟩ | ⟨f, hq⟩
      · obtain ⟨y, rfl⟩ := exists_of_quantityOf hq
        exact Or.inl ⟨y, n, a, b, by rw [hq]⟩
      · exact Or.inr ⟨f, by rw [hq]⟩
    · exact Or.inr ⟨_, parse_of_separator hs he⟩
  | [] | [_] | [_, _] | [_, _, _] | _ :: _ :: _ :: _ :: _ :: _ =>
    exact Or.inr ⟨_, parse_of_fieldCount (by simp [hs])⟩

end Query

end SIUnits
