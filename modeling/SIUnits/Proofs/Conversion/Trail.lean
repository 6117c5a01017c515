import SIUnits.Proofs.Conversion.Totality
import SIUnits.Proofs.Query.Syntax

/-! The trail that the conversion of a line leaves in the log. Each of its four stages writes one
record when it is completed and none otherwise, and a failure is recorded after that. So the length
of the trail says how far the conversion came (`Outcome.ofLine_trail`). -/
namespace SIUnits

/-- The record of a line that was read as the query. -/
def Query.parsed (q : Query) (line : String) : Log.Record :=
  ⟨.debug, .queries, "Parsed query " ++ Text.quoted line ++ ": quantity=" ++ q.quantity.text ++
    " source=" ++ q.sourceUnit ++ " target=" ++ q.targetUnit⟩

/-- The record of a token that was resolved to the unit. -/
def PrefixedUnit.resolved (u : PrefixedUnit) (token : String) : Log.Record :=
  ⟨.debug, .units, "Resolved " ++ Text.quoted token ++ ": prefix=" ++ Text.quoted u.front ++
    " root=" ++ u.root.symbol ++ " multiplier=" ++ u.multiplier.text⟩

/-- The record of a query that was converted to the quantity. -/
def Query.converted (q : Query) (quantity : Binary64) : Log.Record :=
  ⟨.debug, .conversions, "Converted " ++ q.quantity.text ++ " " ++ q.sourceUnit ++ " -> " ++
    quantity.text ++ " " ++ q.targetUnit⟩

/-- The record of a line that could not be converted. -/
def Failure.failed (f : Failure) (line : String) : Log.Record :=
  ⟨.info, .outcomes, "Conversion of " ++ Text.quoted line ++ " failed: [" ++ f.code ++ "] " ++
    f.message⟩

namespace Failure

variable {f : Failure} {family : Family} {names : List String}

/-- The failure is of one of the kinds of the family with these names. -/
def IsOneOf (f : Failure) (family : Family) (names : List String) : Prop :=
  ∃ name ∈ names, f.kind = family.kind name

theorem IsOneOf.families_eq (h : f.IsOneOf family names) : f.families = family.withParents := by
  obtain ⟨name, -, hkind⟩ := h
  rw [families, hkind, Family.kind]

theorem IsOneOf.name_mem (h : f.IsOneOf family names) : f.kind.name ∈ names := by
  obtain ⟨name, hname, hkind⟩ := h
  rw [hkind]
  exact hname

/-- The kinds of the failures of two units that cannot be converted to each other. -/
def pairNames : List String := ["RootUnitMismatch", "ConversionOverflow"]

theorem IsOneOf.not_of_pair (h : f.IsOneOf family names) (hd : ∀ name ∈ names, name ∉ pairNames) :
    f.kind.name ∉ pairNames :=
  hd f.kind.name h.name_mem

end Failure

/-! ### The records of single steps -/

namespace PrefixedUnit

variable {token : String}

theorem records_of_resolve {u : PrefixedUnit} (h : (resolve token).result = .ok u) :
    (resolve token).records = [u.resolved token] := by
  obtain ⟨p, root, hs, rfl⟩ := resolve_eq_ok_iff.mp h
  have hroot := (Root.ending?_eq_some_iff hs.root_mem).mpr hs.ends
  have hbuilt := (valid_ofParts hs.prefix_mem root).ofFields_toFields .plain
  rw [ofParts, ← hs.token_eq] at hbuilt ⊢
  simp [resolve, resolveIn, hroot, hs.front, exponentOf?_symbol hs.prefix_mem, hbuilt, resolved]

theorem Unresolved.isOneOf {f : Failure} (h : Unresolved token f) :
    f.IsOneOf .unit ["UnknownRootUnit", "UnknownPrefix"] := by
  rcases h with ⟨units, rfl⟩ | ⟨front, rfl⟩
  · exact ⟨"UnknownRootUnit", by decide, rfl⟩
  · exact ⟨"UnknownPrefix", by decide, rfl⟩

theorem records_of_unresolved {fault : Fault} (h : (resolve token).result = .error fault) :
    (resolve token).records = [] := by
  rcases spells_cases token with ⟨p, root, hs⟩ | hnone | ⟨root, hr, he, hp⟩
  · rw [resolve_of_spells hs] at h
    cases h
  · have hroot := Root.ending?_eq_none_iff.mpr hnone
    simp [resolve, resolveIn, hroot]
  · have hroot := (Root.ending?_eq_some_iff hr).mpr he
    simp [resolve, resolveIn, hroot, exponentOf?_eq_none hp]

end PrefixedUnit

namespace Query

variable {line : String} {q : Query} {u v : PrefixedUnit} {fault : Fault}

theorem records_of_parse (h : (parse line).result = .ok q) :
    (parse line).records = [q.parsed line] := by
  obtain ⟨hs, hq⟩ := fields_of_parse h
  simp [parse, hs, hq, checked, parsed]

/-- A line that is no query is reported as one of the failures of queries, and leaves no record. -/
theorem unparsed_of_error {f : Failure} (h : (parse line).result = .error (.failure f)) :
    (parse line).records = [] ∧
      f.IsOneOf .query ["MalformedQuery", "InvalidNumber", "NegativeNumber"] := by
  unfold parse at h ⊢
  split at h
  · next n a e b hs =>
    by_cases he : e = "="
    · rw [if_pos he] at h ⊢
      cases hq : quantityOf n with
      | error g =>
        rw [hq] at h
        cases h
        refine ⟨rfl, ?_⟩
        rcases kind_of_quantityOf hq with hkind | hkind
        · exact ⟨"InvalidNumber", by decide, hkind⟩
        · exact ⟨"NegativeNumber", by decide, hkind⟩
      | ok x =>
        obtain ⟨y, rfl⟩ := exists_of_quantityOf hq
        simp [hq, (valid_of_plus y n a b).checked] at h
    · rw [if_neg he] at h ⊢
      cases h
      exact ⟨rfl, "MalformedQuery", by decide, rfl⟩
  · cases h
    exact ⟨rfl, "MalformedQuery", by decide, rfl⟩

theorem records_of_source (hs : (PrefixedUnit.resolve q.sourceUnit).result = .error fault) :
    q.convert.records = [] := by
  simp [convert, hs, PrefixedUnit.records_of_unresolved hs]

section Source

variable (hs : (PrefixedUnit.resolve q.sourceUnit).result = .ok u)
include hs

theorem records_of_target (ht : (PrefixedUnit.resolve q.targetUnit).result = .error fault) :
    q.convert.records = [u.resolved q.sourceUnit] := by
  simp [convert, hs, ht, PrefixedUnit.records_of_resolve hs, PrefixedUnit.records_of_unresolved ht]

variable (ht : (PrefixedUnit.resolve q.targetUnit).result = .ok v)
include ht

theorem records_of_roots (h : u.root ≠ v.root) :
    q.convert.records = [u.resolved q.sourceUnit, v.resolved q.targetUnit] := by
  simp [convert, hs, ht, h, PrefixedUnit.records_of_resolve hs, PrefixedUnit.records_of_resolve ht]

theorem records_of_infinite (hr : u.root = v.root)
    (h : (convertQuantity q.quantity u.multiplier v.multiplier).isFinite = false) :
    q.convert.records = [u.resolved q.sourceUnit, v.resolved q.targetUnit] := by
  simp [convert, hs, ht, hr, h, PrefixedUnit.records_of_resolve hs,
    PrefixedUnit.records_of_resolve ht]

theorem records_of_finite (hr : u.root = v.root)
    (h : (convertQuantity q.quantity u.multiplier v.multiplier).isFinite = true) :
    q.convert.records = [u.resolved q.sourceUnit, v.resolved q.targetUnit,
      q.converted (convertQuantity q.quantity u.multiplier v.multiplier)] := by
  simp [convert, hs, ht, hr, h, PrefixedUnit.records_of_resolve hs,
    PrefixedUnit.records_of_resolve ht, Conversion.checked, converted]

end Source

end Query

/-! ### The whole trail -/

theorem records_convertLine_of_parse_error {line : String} {f : Failure}
    (h : (Query.parse line).result = .error (.failure f)) : (convertLine line).records = [] := by
  rw [convertLine, Traced.records_bind, h]
  exact (Query.unparsed_of_error h).1

theorem records_convertLine_of_parse {line : String} {q : Query}
    (h : (Query.parse line).result = .ok q) :
    (convertLine line).records = q.parsed line :: q.convert.records := by
  rw [convertLine, Traced.records_bind, h, Query.records_of_parse h]
  rfl

/-- The stages of a conversion. -/
inductive Stage where
  | parsed
  | sourceResolved
  | targetResolved
  | converted
deriving DecidableEq

/-- The stages in their order. -/
def Stage.all : List Stage := [.parsed, .sourceResolved, .targetResolved, .converted]

/-- The line completes the stage, which writes the record. -/
inductive Completes (line : String) : Stage → Log.Record → Prop
  | parsed {q : Query} (hq : (Query.parse line).result = .ok q) :
    Completes line .parsed (q.parsed line)
  | sourceResolved {q : Query} {u : PrefixedUnit} (hq : (Query.parse line).result = .ok q)
    (hu : (PrefixedUnit.resolve q.sourceUnit).result = .ok u) :
    Completes line .sourceResolved (u.resolved q.sourceUnit)
  | targetResolved {q : Query} {v : PrefixedUnit} (hq : (Query.parse line).result = .ok q)
    (hv : (PrefixedUnit.resolve q.targetUnit).result = .ok v) :
    Completes line .targetResolved (v.resolved q.targetUnit)
  | converted {q : Query} {r : Conversion} (hq : (Query.parse line).result = .ok q)
    (hr : (convertLine line).result = .ok r) :
    Completes line .converted (q.converted r.quantity)

/-- How the conversion of a line ends: with its trail, and with a result or a failure. -/
inductive Ends (line : String) : List Log.Record → Except Fault Conversion → Prop
  | unparsed {f : Failure} (hq : (Query.parse line).result = .error (.failure f))
    (hf : f.IsOneOf .query ["MalformedQuery", "InvalidNumber", "NegativeNumber"]) :
    Ends line [] (.error (.failure f))
  | noSource {q : Query} {f : Failure} (hq : (Query.parse line).result = .ok q)
    (hu : (PrefixedUnit.resolve q.sourceUnit).result = .error (.failure f))
    (hf : f.IsOneOf .unit ["UnknownRootUnit", "UnknownPrefix"]) :
    Ends line [q.parsed line] (.error (.failure f))
  | noTarget {q : Query} {u : PrefixedUnit} {f : Failure}
    (hq : (Query.parse line).result = .ok q)
    (hu : (PrefixedUnit.resolve q.sourceUnit).result = .ok u)
    (hv : (PrefixedUnit.resolve q.targetUnit).result = .error (.failure f))
    (hf : f.IsOneOf .unit ["UnknownRootUnit", "UnknownPrefix"]) :
    Ends line [q.parsed line, u.resolved q.sourceUnit] (.error (.failure f))
  | unconverted {q : Query} {u v : PrefixedUnit} {f : Failure}
    (hq : (Query.parse line).result = .ok q)
    (hu : (PrefixedUnit.resolve q.sourceUnit).result = .ok u)
    (hv : (PrefixedUnit.resolve q.targetUnit).result = .ok v)
    (hf : f.IsOneOf .unit Failure.pairNames) :
    Ends line [q.parsed line, u.resolved q.sourceUnit, v.resolved q.targetUnit]
      (.error (.failure f))
  | converted {q : Query} {u v : PrefixedUnit} {r : Conversion}
    (hq : (Query.parse line).result = .ok q)
    (hu : (PrefixedUnit.resolve q.sourceUnit).result = .ok u)
    (hv : (PrefixedUnit.resolve q.targetUnit).result = .ok v)
    (hr : (convertLine line).result = .ok r) :
    Ends line [q.parsed line, u.resolved q.sourceUnit, v.resolved q.targetUnit,
      q.converted r.quantity] (.ok r)

/-- A line that was read as a query ends in one of four ways, one for each of the steps that follow
and may fail, and one for none. -/
theorem ends_of_parse {line : String} {q : Query} (hq : (Query.parse line).result = .ok q) :
    Ends line (q.parsed line :: q.convert.records) q.convert.result := by
  have hvalid := (Query.valid_of_parse hq).1
  obtain ⟨y, hy⟩ := Query.exists_of_quantityOf (Query.fields_of_parse hq).2
  rcases PrefixedUnit.resolve_cases q.sourceUnit with ⟨u, hu⟩ | ⟨f, hu, hf⟩
  swap
  · rw [Query.records_of_source hu, Query.convert_of_source hu]
    exact .noSource hq hu hf.isOneOf
  rcases PrefixedUnit.resolve_cases q.targetUnit with ⟨v, hv⟩ | ⟨f, hv, hf⟩
  swap
  · rw [Query.records_of_target hu hv, Query.convert_of_target hu hv]
    exact .noTarget hq hu hv hf.isOneOf
  by_cases hr : u.root = v.root
  swap
  · rw [Query.records_of_roots hu hv hr, Query.convert_of_roots hu hv hr]
    exact .unconverted hq hu hv ⟨"RootUnitMismatch", by decide, rfl⟩
  have hcases := PrefixedUnit.convertQuantity_cases hu hv y
  rw [← hy] at hcases
  rcases hcases with ⟨z, hz⟩ | ⟨hinf, -⟩
  · have hfinite : (convertQuantity q.quantity u.multiplier v.multiplier).isFinite = true := by
      rw [hz]
      rfl
    have hconvert := Query.convert_of_finite hu hv hr hvalid hz
    have hend := Ends.converted hq hu hv ((convertLine_of_parse hq).trans hconvert)
    rw [Query.records_of_finite hu hv hr hfinite, hconvert, hz]
    exact hend
  · have hinfinite : (convertQuantity q.quantity u.multiplier v.multiplier).isFinite = false := by
      rw [hinf]
      rfl
    rw [Query.records_of_infinite hu hv hr hinfinite, Query.convert_of_infinite hu hv hr hinfinite]
    exact .unconverted hq hu hv ⟨"ConversionOverflow", by decide, rfl⟩

theorem ends_convertLine (line : String) :
    Ends line (convertLine line).records (convertLine line).result := by
  cases hq : (Query.parse line).result with
  | error fault =>
    obtain ⟨f, rfl⟩ := Query.onlyFails_parse line fault hq
    obtain ⟨-, hf⟩ := Query.unparsed_of_error hq
    rw [records_convertLine_of_parse_error hq, convertLine_of_parse_error hq]
    exact .unparsed hq hf
  | ok q =>
    rw [records_convertLine_of_parse hq, convertLine_of_parse hq]
    exact ends_of_parse hq

namespace Ends

variable {line : String} {trail : List Log.Record} {result : Except Fault Conversion}

/-- The stages of a trail are the first ones. -/
theorem completes (h : Ends line trail result) :
    List.Forall₂ (Completes line) (Stage.all.take trail.length) trail := by
  cases h with
  | unparsed => exact .nil
  | noSource hq => exact .cons (.parsed hq) .nil
  | noTarget hq hu => exact .cons (.parsed hq) (.cons (.sourceResolved hq hu) .nil)
  | unconverted hq hu hv =>
    exact .cons (.parsed hq) (.cons (.sourceResolved hq hu) (.cons (.targetResolved hq hv) .nil))
  | converted hq hu hv hr =>
    exact .cons (.parsed hq) (.cons (.sourceResolved hq hu)
      (.cons (.targetResolved hq hv) (.cons (.converted hq hr) .nil)))

theorem length_eq_four_iff (h : Ends line trail result) :
    trail.length = 4 ↔ ∃ r, result = .ok r := by
  cases h <;> simp

theorem eq_nil_iff (h : Ends line trail result) :
    trail = [] ↔ ∃ f, result = .error (.failure f) ∧ .query ∈ f.families := by
  cases h with
  | unparsed hq hf => simp [hf.families_eq, Failure.Family.withParents]
  | noSource hq hu hf => simp [hf.families_eq, Failure.Family.withParents]
  | noTarget hq hu hv hf => simp [hf.families_eq, Failure.Family.withParents]
  | unconverted hq hu hv hf => simp [hf.families_eq, Failure.Family.withParents]
  | converted => simp

theorem length_eq_one_iff (h : Ends line trail result) :
    trail.length = 1 ↔ ∃ q, (Query.parse line).result = .ok q ∧
      ¬ ∃ u, (PrefixedUnit.resolve q.sourceUnit).result = .ok u := by
  cases h with
  | unparsed hq => simp [hq]
  | noSource hq hu => simp [hq, hu]
  | noTarget hq hu => simp [hq, hu]
  | unconverted hq hu => simp [hq, hu]
  | converted hq hu => simp [hq, hu]

theorem length_eq_two_iff (h : Ends line trail result) :
    trail.length = 2 ↔ ∃ q, (Query.parse line).result = .ok q ∧
      (∃ u, (PrefixedUnit.resolve q.sourceUnit).result = .ok u) ∧
      ¬ ∃ v, (PrefixedUnit.resolve q.targetUnit).result = .ok v := by
  cases h with
  | unparsed hq => simp [hq]
  | noSource hq hu => simp [hq, hu]
  | noTarget hq hu hv => simp [hq, hu, hv]
  | unconverted hq hu hv => simp [hq, hu, hv]
  | converted hq hu hv => simp [hq, hu, hv]

theorem length_eq_three_iff (h : Ends line trail result) :
    trail.length = 3 ↔ ∃ f, result = .error (.failure f) ∧
      f.kind.name ∈ Failure.pairNames := by
  cases h with
  | unparsed hq hf => simp [hf.not_of_pair (by decide)]
  | noSource hq hu hf => simp [hf.not_of_pair (by decide)]
  | noTarget hq hu hv hf => simp [hf.not_of_pair (by decide)]
  | unconverted hq hu hv hf => exact iff_of_true rfl ⟨_, rfl, hf.name_mem⟩
  | converted => simp

end Ends

namespace Outcome

theorem ofLine_cases (line : String) :
    (∃ r, (convertLine line).result = .ok r ∧
      ofLine line = ⟨(convertLine line).records, .ok ⟨line, some r, none⟩⟩) ∨
    ∃ f, (convertLine line).result = .error (.failure f) ∧
      ofLine line = ⟨(convertLine line).records ++ [f.failed line], .ok ⟨line, none, some f⟩⟩ := by
  rcases convertLine_cases line with ⟨r, hr, -⟩ | ⟨f, hf⟩
  · exact Or.inl ⟨r, hr, by simp only [ofLine, hr]⟩
  · exact Or.inr ⟨f, hf, by simp only [ofLine, hf]; rfl⟩

/-- The log of a line is its trail and, if there is no result, the record of the failure. The trail
holds the records of the first stages in their order. It is whole if there is a result, empty if the
line is no query, and ends after the line if the source unit is unknown, after the source unit if
the target unit is unknown, and after both if they have different roots or the quantity is too
large. -/
theorem ofLine_trail (line : String) : ∃ o trail,
    (ofLine line).result = .ok o ∧
    (ofLine line).records = trail ++ (o.failure.map fun f => f.failed line).toList ∧
    List.Forall₂ (Completes line) (Stage.all.take trail.length) trail ∧
    (trail.length = 4 ↔ o.isOk = true) ∧
    (trail = [] ↔ ∃ f, o.failure = some f ∧ .query ∈ f.families) ∧
    (trail.length = 1 ↔ ∃ q, (Query.parse line).result = .ok q ∧
      ¬ ∃ u, (PrefixedUnit.resolve q.sourceUnit).result = .ok u) ∧
    (trail.length = 2 ↔ ∃ q, (Query.parse line).result = .ok q ∧
      (∃ u, (PrefixedUnit.resolve q.sourceUnit).result = .ok u) ∧
      ¬ ∃ v, (PrefixedUnit.resolve q.targetUnit).result = .ok v) ∧
    (trail.length = 3 ↔ ∃ f, o.failure = some f ∧
      (f.kind.name = "RootUnitMismatch" ∨ f.kind.name = "ConversionOverflow")) := by
  have hends := ends_convertLine line
  have hone := hends.length_eq_one_iff
  have htwo := hends.length_eq_two_iff
  rcases ofLine_cases line with ⟨r, hr, ho⟩ | ⟨f, hf, ho⟩
  · rw [ho]
    refine ⟨_, _, rfl, (List.append_nil _).symm, hends.completes, ?_, ?_, hone, htwo, ?_⟩
    · simp [hends.length_eq_four_iff, hr, isOk]
    · simp [hends.eq_nil_iff, hr]
    · simp [hends.length_eq_three_iff, hr]
  · rw [ho]
    refine ⟨_, _, rfl, rfl, hends.completes, ?_, ?_, hone, htwo, ?_⟩
    · simp [hends.length_eq_four_iff, hf, isOk]
    · simp [hends.eq_nil_iff, hf]
    · simp [hends.length_eq_three_iff, hf, Failure.pairNames]

end Outcome

end SIUnits
