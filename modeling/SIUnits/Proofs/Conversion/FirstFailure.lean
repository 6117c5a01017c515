import SIUnits.Proofs.Conversion.Steps

/-! The order of the checks that a line goes through. The first of them that fails decides which
failure is reported and which token it blames, and what the line holds beyond the fields that were
read up to there has no influence (`convertLine_firstFailing`). -/
namespace SIUnits

/-- What a line is checked for: four fields, an equals sign as the third, a number that is a decimal
literal with a finite reading not below zero, two units of one root, and a result in range. -/
inductive LineCheck where
  | fieldCount
  | separator
  | literal
  | finite
  | sign
  | sourceUnit
  | targetUnit
  | sameRoot
  | range
deriving DecidableEq

namespace LineCheck

/-- The checks in the order in which they are made. -/
def all : List LineCheck :=
  [.fieldCount, .separator, .literal, .finite, .sign, .sourceUnit, .targetUnit, .sameRoot, .range]

/-- The field of a line at this position, empty if there are not so many. -/
def fieldAt (i : Nat) (line : String) : String := (Text.splitSpaces line).getD i ""

abbrev number (line : String) : String := fieldAt 0 line
abbrev source (line : String) : String := fieldAt 1 line
abbrev target (line : String) : String := fieldAt 3 line

/-- The double that a token is read to, if the token is a decimal literal. -/
def reading? (token : String) : Option Binary64 :=
  (Decimal.Literal.ofString? token).map Decimal.Literal.toBinary64

def quantity? (token : String) : Option Binary64 := (Query.quantityOf token).toOption

def unit? (token : String) : Option PrefixedUnit := (PrefixedUnit.resolve token).result.toOption

/-- The converted quantity computed in the two ways: by the product and by the ratio. -/
def candidates? (line : String) : Option (Binary64 × Binary64) := do
  let x ← quantity? (number line)
  let u ← unit? (source line)
  let v ← unit? (target line)
  return (x * u.multiplier / v.multiplier, x * (u.multiplier / v.multiplier))

/-- The line passes the check. Only the first check that fails matters, so a check need not make
sense for a line that fails an earlier one. -/
def passes (line : String) : LineCheck → Bool
  | .fieldCount => (Text.splitSpaces line).length = 4
  | .separator => fieldAt 2 line = "="
  | .literal => (reading? (number line)).isSome
  | .finite => (reading? (number line)).all Binary64.isFinite
  | .sign => (reading? (number line)).all fun x => !x.isBelowZero
  | .sourceUnit => (unit? (source line)).isSome
  | .targetUnit => (unit? (target line)).isSome
  | .sameRoot => (unit? (source line)).map (·.root) = (unit? (target line)).map (·.root)
  | .range => candidates? line ≠ some (.infinite false, .infinite false)

def firstFailing? (line : String) : Option LineCheck := all.find? fun c => !passes line c

/-- The failure that the check reports for a line that does not pass it. -/
def Reports (line : String) (f : Failure) : LineCheck → Prop
  | .fieldCount =>
    f = ⟨.malformedQuery line (some (.integer (Text.splitSpaces line).length)), []⟩
  | .separator =>
    f = ⟨.malformedQuery line (some (.integer 4)), [("separator", .text (fieldAt 2 line))]⟩
  | .literal => f = ⟨.invalidNumber (number line), [("reason", .text "not a decimal literal")]⟩
  | .finite => f = ⟨.invalidNumber (number line), [("reason", .text "not finite")]⟩
  | .sign => ∃ x, reading? (number line) = some x ∧
    f = ⟨.negativeNumber (number line) (some (.number x)), []⟩
  | .sourceUnit => (PrefixedUnit.resolve (source line)).result = .error (.failure f) ∧
    PrefixedUnit.Unresolved (source line) f
  | .targetUnit => (PrefixedUnit.resolve (target line)).result = .error (.failure f) ∧
    PrefixedUnit.Unresolved (target line) f
  | .sameRoot => ∃ u v, unit? (source line) = some u ∧ unit? (target line) = some v ∧
    f = ⟨.rootUnitMismatch u.root.symbol v.root.symbol
      (some (source line)) (some (target line)), []⟩
  | .range => f = ⟨.conversionOverflow (number line) (source line) (target line), []⟩

/-- The token that a failed check blames. -/
def blames (line : String) : LineCheck → String
  | .fieldCount | .separator => line
  | .literal | .finite | .sign | .range => number line
  | .sourceUnit => source line
  | .targetUnit | .sameRoot => target line

/-- The positions of the fields that have been looked into when the check is made. -/
def reads : LineCheck → List Nat
  | .fieldCount | .separator => []
  | .literal | .finite | .sign => [0]
  | .sourceUnit => [0, 1]
  | .targetUnit | .sameRoot | .range => [0, 1, 3]

/-- The second line is the same as the first up to the check: the same line for the checks of its
shape, and later on a line of the right shape with the same fields as far as they have been read. -/
def SameUpTo (line line' : String) (c : LineCheck) : Prop :=
  if c = .fieldCount ∨ c = .separator then line' = line
  else passes line' .fieldCount = true ∧ passes line' .separator = true ∧
    ∀ i ∈ c.reads, fieldAt i line' = fieldAt i line

def before (c : LineCheck) : List LineCheck := all.takeWhile (· ≠ c)

/-- Nothing that comes before the first hit is a hit. -/
private theorem eq_false_of_find? {α : Type} [DecidableEq α] {p : α → Bool} {a : α} {l : List α}
    (h : l.find? p = some a) : ∀ b ∈ l.takeWhile (· ≠ a), p b = false := by
  induction l with
  | nil => cases h
  | cons x xs ih =>
    cases hp : p x with
    | true =>
      rw [List.find?_cons_of_pos hp, Option.some.injEq] at h
      simp [h]
    | false =>
      rw [List.find?_cons_of_neg (by simp [hp])] at h
      intro b hb
      rw [List.takeWhile_cons] at hb
      split at hb
      · rcases List.mem_cons.mp hb with rfl | hb
        · exact hp
        · exact ih h b hb
      · cases hb

variable {line line' : String} {c : LineCheck}

theorem passes_eq_false (h : firstFailing? line = some c) : passes line c = false := by
  simpa using List.find?_some h

theorem passes_of_before (h : firstFailing? line = some c) : ∀ d ∈ before c, passes line d := by
  intro d hd
  simpa using eq_false_of_find? h d hd

theorem passes_of_firstFailing_none (h : firstFailing? line = none) (c : LineCheck) :
    passes line c = true := by
  have hc : c ∈ all := by cases c <;> decide
  simpa using List.find?_eq_none.mp h c hc

theorem splitSpaces_of_passes (hcount : passes line .fieldCount = true) :
    Text.splitSpaces line = [number line, source line, fieldAt 2 line, target line] := by
  have hlen : (Text.splitSpaces line).length = 4 := by simpa [passes] using hcount
  match hs : Text.splitSpaces line, hlen with
  | [n, a, e, b], _ => simp [fieldAt, hs]

theorem splitSpaces_of_shape (hcount : passes line .fieldCount = true)
    (hsep : passes line .separator = true) :
    Text.splitSpaces line = [number line, source line, "=", target line] := by
  have he : fieldAt 2 line = "=" := by simpa [passes] using hsep
  rw [splitSpaces_of_passes hcount, he]

theorem SameUpTo.refl (h : ∀ d ∈ before c, passes line d = true) : SameUpTo line line c := by
  unfold SameUpTo
  split
  · rfl
  · next hc =>
    have hshape : .fieldCount ∈ before c ∧ .separator ∈ before c := by
      revert hc
      cases c <;> decide
    exact ⟨h _ hshape.1, h _ hshape.2, fun _ _ => rfl⟩

theorem unit?_eq_some_iff {token : String} {u : PrefixedUnit} :
    unit? token = some u ↔ (PrefixedUnit.resolve token).result = .ok u := by
  unfold unit?
  cases (PrefixedUnit.resolve token).result <;> simp [Except.toOption]

theorem SameUpTo.fields (h : SameUpTo line line' c) (hc : c ≠ .fieldCount ∧ c ≠ .separator) :
    Text.splitSpaces line' = [number line', source line', "=", target line'] ∧
      ∀ i ∈ c.reads, fieldAt i line' = fieldAt i line := by
  rw [SameUpTo, if_neg (by simp [hc])] at h
  exact ⟨splitSpaces_of_shape h.1 h.2.1, h.2.2⟩

section Number

variable (h : SameUpTo line line' c) (hc : c ≠ .fieldCount ∧ c ≠ .separator)
include h hc

private theorem SameUpTo.fields_eq : Text.splitSpaces line' =
    [number line, source line', "=", target line'] := by
  obtain ⟨hs, hr⟩ := h.fields hc
  have hnumber : 0 ∈ c.reads := by
    revert hc
    cases c <;> decide
  have hn : number line' = number line := hr 0 hnumber
  rw [hs, hn]

theorem SameUpTo.convertLine_of_number_error {fault : Fault}
    (hf : Query.quantityOf (number line) = .error fault) :
    (convertLine line').result = .error fault :=
  SIUnits.convertLine_of_number_error (h.fields_eq hc) hf

theorem SameUpTo.convertLine_of_quantity {x : Binary64}
    (hq : Query.quantityOf (number line) = .ok x) : (convertLine line').result =
      (Query.convert ⟨x, number line, source line', target line'⟩).result :=
  SIUnits.convertLine_of_quantity (h.fields_eq hc) hq

end Number

theorem exists_literal (h : passes line .literal = true) :
    ∃ l, Decimal.Literal.ofString? (number line) = some l := by
  simpa [passes, reading?, Option.isSome_iff_exists] using h

theorem exists_quantity (hl : passes line .literal = true) (hf : passes line .finite = true)
    (hs : passes line .sign = true) :
    ∃ y, Query.quantityOf (number line) = .ok (.finite false y) := by
  obtain ⟨l, hl⟩ := exists_literal hl
  have hf : l.toBinary64.isFinite = true := by simpa [passes, reading?, hl] using hf
  have hs : l.toBinary64.isBelowZero = false := by simpa [passes, reading?, hl] using hs
  have hq := Query.quantityOf_of_quantity hl hf hs
  obtain ⟨y, hy⟩ := Query.exists_of_quantityOf hq
  exact ⟨y, hy ▸ hq⟩

theorem exists_unit {token : String} (h : (unit? token).isSome = true) :
    ∃ u, (PrefixedUnit.resolve token).result = .ok u := by
  obtain ⟨u, hu⟩ := Option.isSome_iff_exists.mp h
  exact ⟨u, unit?_eq_some_iff.mp hu⟩

theorem exists_unresolved {token : String} (h : (unit? token).isSome = false) :
    ∃ f, (PrefixedUnit.resolve token).result = .error (.failure f) ∧
      PrefixedUnit.Unresolved token f := by
  rcases PrefixedUnit.resolve_cases token with ⟨u, hu⟩ | hf
  · rw [unit?_eq_some_iff.mpr hu] at h
    cases h
  · exact hf

/-- The check reports a failure that blames the right token, and every line that is the same up to
the check ends with that failure. -/
def Decides (line : String) (c : LineCheck) : Prop :=
  ∃ f, Reports line f c ∧ f.token = some (blames line c) ∧
    ∀ line', SameUpTo line line' c → (convertLine line').result = .error (.failure f)

private theorem decides_fieldCount (h : passes line .fieldCount = false) :
    Decides line .fieldCount := by
  refine ⟨_, rfl, rfl, fun line' hs => ?_⟩
  obtain rfl : line' = line := by simpa [SameUpTo] using hs
  exact convertLine_of_parse_error (Query.parse_of_fieldCount (by simpa [passes] using h))

private theorem decides_separator (hcount : passes line .fieldCount = true)
    (h : passes line .separator = false) : Decides line .separator := by
  refine ⟨_, rfl, rfl, fun line' hs => ?_⟩
  obtain rfl : line' = line := by simpa [SameUpTo] using hs
  exact convertLine_of_parse_error (Query.parse_of_separator (splitSpaces_of_passes hcount)
    (by simpa [passes] using h))

private theorem decides_literal (h : passes line .literal = false) : Decides line .literal := by
  have hl : Decimal.Literal.ofString? (number line) = none := by
    simpa [passes, reading?] using h
  exact ⟨_, rfl, rfl, fun line' hs =>
    hs.convertLine_of_number_error (by decide) (Query.quantityOf_of_not_literal hl)⟩

private theorem decides_finite (hl : passes line .literal = true)
    (h : passes line .finite = false) : Decides line .finite := by
  obtain ⟨l, hl⟩ := exists_literal hl
  have hf : l.toBinary64.isFinite = false := by simpa [passes, reading?, hl] using h
  exact ⟨_, rfl, rfl, fun line' hs =>
    hs.convertLine_of_number_error (by decide) (Query.quantityOf_of_infinite hl hf)⟩

private theorem decides_sign (hl : passes line .literal = true) (hf : passes line .finite = true)
    (h : passes line .sign = false) : Decides line .sign := by
  obtain ⟨l, hl⟩ := exists_literal hl
  have hf : l.toBinary64.isFinite = true := by simpa [passes, reading?, hl] using hf
  have hb : l.toBinary64.isBelowZero = true := by simpa [passes, reading?, hl] using h
  exact ⟨_, ⟨l.toBinary64, by simp [reading?, hl], rfl⟩, rfl, fun line' hs =>
    hs.convertLine_of_number_error (by decide) (Query.quantityOf_of_negative hl hf hb)⟩

theorem token_of_unresolved {token : String} {f : Failure}
    (h : PrefixedUnit.Unresolved token f) : f.token = some token := by
  rcases h with ⟨units, rfl⟩ | ⟨front, rfl⟩ <;> rfl

private theorem decides_sourceUnit {x : Binary64} (hq : Query.quantityOf (number line) = .ok x)
    (h : passes line .sourceUnit = false) : Decides line .sourceUnit := by
  obtain ⟨f, hf, hu⟩ := exists_unresolved h
  refine ⟨f, ⟨hf, hu⟩, token_of_unresolved hu, fun line' hs => ?_⟩
  have hsource : source line' = source line := (hs.fields (by decide)).2 1 (by decide)
  rw [hs.convertLine_of_quantity (by decide) hq, hsource]
  exact Query.convert_of_source hf

section Units

variable {x : Binary64} {u v : PrefixedUnit}

/-- The checks that come after both units have been resolved see the whole query. -/
private theorem SameUpTo.convertLine_of_units (hs : SameUpTo line line' c)
    (hc : c = .targetUnit ∨ c = .sameRoot ∨ c = .range)
    (hq : Query.quantityOf (number line) = .ok x) : (convertLine line').result =
      (Query.convert ⟨x, number line, source line, target line⟩).result := by
  have hne : c ≠ .fieldCount ∧ c ≠ .separator := by rcases hc with rfl | rfl | rfl <;> decide
  have hreads : c.reads = [0, 1, 3] := by rcases hc with rfl | rfl | rfl <;> rfl
  have hread := (hs.fields hne).2
  rw [hreads] at hread
  have hsource : source line' = source line := hread 1 (by decide)
  have htarget : target line' = target line := hread 3 (by decide)
  rw [hs.convertLine_of_quantity hne hq, hsource, htarget]

variable (hu : (PrefixedUnit.resolve (source line)).result = .ok u)
include hu

private theorem decides_targetUnit (hq : Query.quantityOf (number line) = .ok x)
    (h : passes line .targetUnit = false) : Decides line .targetUnit := by
  obtain ⟨f, hf, hv⟩ := exists_unresolved h
  refine ⟨f, ⟨hf, hv⟩, token_of_unresolved hv, fun line' hs => ?_⟩
  rw [hs.convertLine_of_units (by decide) hq]
  exact Query.convert_of_target hu hf

variable (hv : (PrefixedUnit.resolve (target line)).result = .ok v)
include hv

theorem sameRoot_iff : passes line .sameRoot = true ↔ u.root = v.root := by
  simp [passes, unit?_eq_some_iff.mpr hu, unit?_eq_some_iff.mpr hv]

private theorem decides_sameRoot (hq : Query.quantityOf (number line) = .ok x)
    (h : passes line .sameRoot = false) : Decides line .sameRoot := by
  have hr : u.root ≠ v.root := by
    rw [Ne, ← sameRoot_iff hu hv, h]
    exact Bool.false_ne_true
  refine ⟨_, ⟨u, v, unit?_eq_some_iff.mpr hu, unit?_eq_some_iff.mpr hv, rfl⟩, ?_,
    fun line' hs => ?_⟩
  · simp [Failure.token, Failure.Cause.token, Failure.nonemptyOr, blames,
      PrefixedUnit.ne_empty_of_resolve hv]
  · rw [hs.convertLine_of_units (by decide) hq]
    exact Query.convert_of_roots hu hv hr

/-- Both formulas are infinite exactly where the converted quantity is. -/
theorem range_iff {y : Magnitude} (hq : Query.quantityOf (number line) = .ok (.finite false y)) :
    passes line .range = true ↔
      ∃ z, convertQuantity (.finite false y) u.multiplier v.multiplier = .finite false z := by
  have hx : quantity? (number line) = some (.finite false y) := by
    rw [quantity?, hq]
    rfl
  have hc : candidates? line = some (.finite false y * u.multiplier / v.multiplier,
      .finite false y * (u.multiplier / v.multiplier)) := by
    rw [candidates?, hx, unit?_eq_some_iff.mpr hu, unit?_eq_some_iff.mpr hv]
    rfl
  rcases PrefixedUnit.convertQuantity_cases hu hv y with ⟨z, hz⟩ | ⟨hinf, hd, hm⟩
  · have hne : candidates? line ≠ some (.infinite false, .infinite false) := by
      intro h
      simp only [hc, Option.some.injEq, Prod.mk.injEq] at h
      rw [convertQuantity_eq_of_infinite h.1, h.2] at hz
      cases hz
    simp [passes, hne, hz]
  · simp [passes, hc, hinf, hd, hm]

private theorem decides_range {y : Magnitude}
    (hq : Query.quantityOf (number line) = .ok (.finite false y)) (hr : u.root = v.root)
    (h : passes line .range = false) : Decides line .range := by
  have hinf : (convertQuantity (.finite false y) u.multiplier v.multiplier).isFinite = false := by
    rcases PrefixedUnit.convertQuantity_cases hu hv y with hz | ⟨hinf, -⟩
    · rw [(range_iff hu hv hq).mpr hz] at h
      cases h
    · rw [hinf]
      rfl
  refine ⟨_, rfl, rfl, fun line' hs => ?_⟩
  rw [hs.convertLine_of_units (by decide) hq]
  exact Query.convert_of_infinite hu hv hr hinf

end Units

private theorem decides_of_before (hb : ∀ d ∈ before c, passes line d = true)
    (hc : passes line c = false) : Decides line c := by
  have hquantity : [.literal, .finite, .sign] ⊆ before c →
      ∃ y, Query.quantityOf (number line) = .ok (.finite false y) := fun h =>
    exists_quantity (hb _ (h (by decide))) (hb _ (h (by decide))) (hb _ (h (by decide)))
  have hsource : .sourceUnit ∈ before c →
      ∃ u, (PrefixedUnit.resolve (source line)).result = .ok u := fun h => exists_unit (hb _ h)
  have htarget : .targetUnit ∈ before c →
      ∃ v, (PrefixedUnit.resolve (target line)).result = .ok v := fun h => exists_unit (hb _ h)
  cases c with
  | fieldCount => exact decides_fieldCount hc
  | separator => exact decides_separator (hb _ (by decide)) hc
  | literal => exact decides_literal hc
  | finite => exact decides_finite (hb _ (by decide)) hc
  | sign => exact decides_sign (hb _ (by decide)) (hb _ (by decide)) hc
  | sourceUnit =>
    obtain ⟨y, hq⟩ := hquantity (by decide)
    exact decides_sourceUnit hq hc
  | targetUnit =>
    obtain ⟨y, hq⟩ := hquantity (by decide)
    obtain ⟨u, hu⟩ := hsource (by decide)
    exact decides_targetUnit hu hq hc
  | sameRoot =>
    obtain ⟨y, hq⟩ := hquantity (by decide)
    obtain ⟨u, hu⟩ := hsource (by decide)
    obtain ⟨v, hv⟩ := htarget (by decide)
    exact decides_sameRoot hu hv hq hc
  | range =>
    obtain ⟨y, hq⟩ := hquantity (by decide)
    obtain ⟨u, hu⟩ := hsource (by decide)
    obtain ⟨v, hv⟩ := htarget (by decide)
    exact decides_range hu hv hq ((sameRoot_iff hu hv).mp (hb _ (by decide))) hc

theorem convertLine_of_passes (h : ∀ c, passes line c = true) :
    ∃ r, (convertLine line).result = .ok r ∧ r.unit = target line ∧
      (Query.parse line).result = .ok r.query := by
  have hs := splitSpaces_of_shape (h .fieldCount) (h .separator)
  have hself : SameUpTo line line .range := SameUpTo.refl fun d _ => h d
  obtain ⟨y, hq⟩ := exists_quantity (h .literal) (h .finite) (h .sign)
  obtain ⟨u, hu⟩ := exists_unit (h .sourceUnit)
  obtain ⟨v, hv⟩ := exists_unit (h .targetUnit)
  have hr := (sameRoot_iff hu hv).mp (h .sameRoot)
  obtain ⟨z, hz⟩ := (range_iff hu hv hq).mp (h .range)
  have hconv := Query.convert_of_finite (q := ⟨_, number line, source line, target line⟩) hu hv hr
    (Query.valid_of_plus y _ _ _) hz
  refine ⟨⟨.finite false z, target line, ⟨.finite false y, number line, source line, target line⟩⟩,
    ?_, rfl, ?_⟩
  · rw [hself.convertLine_of_units (by decide) hq]
    exact hconv
  · rw [Query.parse_of_fields hs, hq]

end LineCheck

open LineCheck in
/-- The conversion of a line ends with the failure of the first check that the line does not pass,
and so does every line that is the same up to that check. A line that passes all of them has a
result in its target unit. -/
theorem convertLine_firstFailing (line : String) :
    match firstFailing? line with
    | some c => ∃ f, Reports line f c ∧ f.token = some (blames line c) ∧
        (convertLine line).result = .error (.failure f) ∧
        ∀ line', SameUpTo line line' c → (convertLine line').result = .error (.failure f)
    | none => ∃ r, (convertLine line).result = .ok r ∧ r.unit = target line ∧
        (Query.parse line).result = .ok r.query := by
  cases h : firstFailing? line with
  | none => exact convertLine_of_passes (passes_of_firstFailing_none h)
  | some c =>
    have hb := passes_of_before h
    obtain ⟨f, hf, htoken, hsame⟩ := decides_of_before hb (passes_eq_false h)
    exact ⟨f, hf, htoken, hsame line (SameUpTo.refl hb), hsame⟩

end SIUnits
