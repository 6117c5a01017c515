import SIUnits.Conversion.Basic
import SIUnits.Proofs.Field.Rule
import SIUnits.Proofs.Field.Valid

/-! Values are built from records of fields. What is declared for a kind of values decides alone
whether one is built, and what is wrong otherwise (`Schema.constructions`). -/
namespace SIUnits

open Checked

/-- The fields that a kind of values declares, in order, and their rules. -/
def Schema.declared : Schema → List (String × FieldRule)
  | .query =>
    [("quantity", .quantity), ("quantity_text", .text), ("source_unit", .text),
      ("target_unit", .text)]
  | .unit =>
    [("symbol", .text), ("prefix", .text), ("root_unit", .root), ("exponent", .exponent),
      ("multiplier", .multiplier)]
  | .conversion => [("quantity", .quantity), ("unit", .text), ("query", .query)]

namespace Entries

variable (numerals : Numerals) (fields : Entries) (d : String × FieldRule)

/-- The field is there, and what it takes is held as `w`. -/
def Holds (w : Value) : Prop := ∃ v, fields.get? d.1 = some v ∧ d.2.Takes numerals v w

/-- The field is there and keeps its rule. -/
def Keeps : Prop := ∃ v, fields.get? d.1 = some v ∧ d.2.Admits numerals v

instance : Decidable (fields.Keeps numerals d) :=
  match h : fields.get? d.1 with
  | none => isFalse (by simp [Keeps, h])
  | some v => decidable_of_iff (d.2.Admits numerals v) (by simp [Keeps, h])

/-- The declared fields that are missing or do not keep their rules. -/
def offending (schema : Schema) : List (String × FieldRule) :=
  schema.declared.filter fun d => ¬ fields.Keeps numerals d

/-- Where the errors of an offending field are: in its place, or in the places of those that offend
in the query which it should be. -/
def places : List (List String) :=
  match d.2, fields.get? d.1 with
  | .query, some (.record inner) =>
    (offending numerals inner .query).map fun inside => [d.1, inside.1]
  | _, _ => [[d.1]]

/-- The same declared fields, in a query within too. -/
def AgreeOn (schema : Schema) (fields others : Entries) : Prop :=
  ∀ d ∈ schema.declared, fields.get? d.1 = others.get? d.1 ∨
    d.2 = .query ∧ ∃ inner inner', fields.get? d.1 = some (.record inner) ∧
      others.get? d.1 = some (.record inner') ∧
        ∀ inside ∈ Schema.query.declared, get? inner inside.1 = get? inner' inside.1

end Entries

/-- The error of a record whose fields keep their rules but do not fit together. -/
def Schema.Mismatch (numerals : Numerals) (schema : Schema) (fields : Entries) (e : FieldError) :
    Prop :=
  schema = .unit ∧ ∃ symbol front root, fields.Holds numerals ("symbol", .text) (.text symbol) ∧
    fields.Holds numerals ("prefix", .text) (.text front) ∧
    fields.Holds numerals ("root_unit", .root) (.text root) ∧
    symbol ≠ front ++ root ∧ e = ⟨[], .symbolMismatch symbol front root⟩

/-- What is promised of values that are built from their fields. -/
structure Schema.IsBuiltBy {α : Type} (numerals : Numerals) (schema : Schema)
    (build : Entries → Checked α) (toFields : α → Entries) : Prop where
  /-- A value is built if every declared field keeps its rule and the fields fit together. -/
  succeeds_iff (fields : Entries) : (∃ a, build fields = .ok a) ↔
    (∀ d ∈ schema.declared, fields.Keeps numerals d) ∧ ∀ e, ¬ schema.Mismatch numerals fields e
  /-- What is built has the fields that it was built from. -/
  holds (fields : Entries) (a : α) : build fields = .ok a →
    ∀ d ∈ schema.declared, ∃ w, (toFields a).get? d.1 = some w ∧ fields.Holds numerals d w
  /-- There is one error for each offending field, or else the one that the fields do not fit. -/
  errors (fields : Entries) (es : List FieldError) : build fields = .error es → es ≠ [] ∧
    (fields.offending numerals schema ≠ [] →
      es.map (·.path) = (fields.offending numerals schema).flatMap (fields.places numerals)) ∧
    (fields.offending numerals schema = [] → ∃ e, schema.Mismatch numerals fields e ∧ es = [e]) ∧
    ∀ e ∈ es, e.path = [] → fields.offending numerals schema = []
  /-- Fields that are not declared do not matter. -/
  congr (fields others : Entries) : fields.AgreeOn schema others → build fields = build others
  rebuild (fields : Entries) (a : α) : build fields = .ok a → build (toFields a) = .ok a

/-! ### Offending fields -/

namespace Entries

variable {numerals : Numerals} {schema : Schema} {fields others : Entries}
  {d : String × FieldRule}

theorem offending_eq_nil_iff :
    fields.offending numerals schema = [] ↔ ∀ d ∈ schema.declared, fields.Keeps numerals d := by
  simp [offending, List.filter_eq_nil_iff]

theorem filter_eq_nil {ds : List (String × FieldRule)} (h : ∀ d ∈ ds, fields.Keeps numerals d) :
    (ds.filter fun d => ¬ fields.Keeps numerals d) = [] := by
  rw [List.filter_eq_nil_iff]
  intro d hd
  simp [h d hd]

theorem AgreeOn.get?_eq (h : fields.AgreeOn schema others) (hd : d ∈ schema.declared)
    (hrule : d.2 ≠ .query) : fields.get? d.1 = others.get? d.1 :=
  (h d hd).resolve_right fun hquery => hrule hquery.1

theorem nil_not_mem_places (fields : Entries) (d : String × FieldRule) :
    [] ∉ fields.places numerals d := by
  unfold places
  split <;> simp

/-- A field that should not be a query has its error in its own place. -/
theorem places_of_ne (h : d.2 ≠ .query) : fields.places numerals d = [[d.1]] := by
  unfold places
  split
  · exact absurd ‹_› h
  · rfl

theorem flatMap_places_query (inner : Entries) :
    (inner.offending numerals .query).flatMap (inner.places numerals) =
      (inner.offending numerals .query).map fun d => [d.1] := by
  have hsimple : ∀ d ∈ Schema.query.declared, d.2 ≠ .query := by decide
  rw [List.map_eq_flatMap]
  apply List.flatMap_congr
  intro d hd
  exact places_of_ne (hsimple d (List.mem_of_mem_filter hd))

end Entries

/-! ### Checks of several fields -/

namespace Checked

variable {α β : Type} {numerals : Numerals} {fields : Entries}

theorem both_eq_ok_iff {f : Checked (α → β)} {c : Checked α} {b : β} :
    both f c = .ok b ↔ ∃ g a, f = .ok g ∧ c = .ok a ∧ g a = b := by
  cases f <;> cases c <;> simp [both]

theorem map_eq_ok_iff {f : α → β} {c : Checked α} {b : β} :
    Except.map f c = .ok b ↔ ∃ a, c = .ok a ∧ f a = b := by
  cases c <;> simp [Except.map]

theorem field_eq_ok_iff {name : String} {read : Value → Except FieldFault α} {a : α} :
    field name read fields = .ok a ↔ ∃ v, fields.get? name = some v ∧ read v = .ok a := by
  unfold field
  cases fields.get? name with
  | none => simp
  | some v => cases h : read v <;> simp [h]

theorem nested_eq_ok_iff {name : String} {read : Entries → Checked α} {a : α} :
    nested name read fields = .ok a ↔
      ∃ inner, fields.get? name = some (.record inner) ∧ read inner = .ok a := by
  unfold nested
  split
  · next hv => simp [hv]
  · next inner hv => cases h : read inner <;> simp [hv, h]
  · next v hne hv =>
    constructor
    · intro h
      cases h
    · rintro ⟨inner, hinner, -⟩
      exact absurd (Option.some.inj (hv.symm.trans hinner)) (hne inner)

/-- The check succeeds if these fields keep their rules, and has an error for each that does not. -/
structure Covers (numerals : Numerals) (c : Checked α) (fields : Entries)
    (ds : List (String × FieldRule)) : Prop where
  ok_iff : (∃ a, c = .ok a) ↔ ∀ d ∈ ds, fields.Keeps numerals d
  errors (es : List FieldError) : c = .error es → es ≠ [] ∧
    es.map (·.path) =
      (ds.filter fun d => ¬ fields.Keeps numerals d).flatMap (fields.places numerals)

theorem Covers.map {c : Checked α} {ds : List (String × FieldRule)}
    (h : c.Covers numerals fields ds) (f : α → β) : Covers numerals (Except.map f c) fields ds := by
  obtain ⟨hok, herrors⟩ := h
  cases c with
  | ok a => exact ⟨by rw [← hok]; simp [Except.map], by simp [Except.map]⟩
  | error es => exact ⟨by rw [← hok]; simp [Except.map], by simpa [Except.map] using herrors⟩

/-- The errors of the two checks are put one after the other. -/
theorem Covers.both {f : Checked (α → β)} {c : Checked α} {ds ds' : List (String × FieldRule)}
    (hf : f.Covers numerals fields ds) (hc : c.Covers numerals fields ds') :
    (Checked.both f c).Covers numerals fields (ds ++ ds') := by
  obtain ⟨hfok, hferr⟩ := hf
  obtain ⟨hcok, hcerr⟩ := hc
  constructor
  · rw [List.forall_mem_append, ← hfok, ← hcok]
    cases f <;> cases c <;> simp [Checked.both]
  · intro es hes
    rw [List.filter_append, List.flatMap_append]
    cases f with
    | ok g =>
      rw [Entries.filter_eq_nil (hfok.mp ⟨g, rfl⟩), List.flatMap_nil, List.nil_append]
      cases c with
      | ok a => cases hes
      | error cs => exact hcerr es (congrArg Except.error (Except.error.inj hes))
    | error fs =>
      obtain ⟨hne, hpaths⟩ := hferr fs rfl
      cases c with
      | ok a =>
        rw [Entries.filter_eq_nil (hcok.mp ⟨a, rfl⟩), List.flatMap_nil, List.append_nil]
        exact hferr es (congrArg Except.error (Except.error.inj hes))
      | error cs =>
        obtain rfl := Except.error.inj hes
        rw [List.map_append, hpaths, (hcerr cs rfl).2]
        exact ⟨by simp [hne], rfl⟩

theorem Covers.of_field {c : Checked α} {d : String × FieldRule}
    (hok : (∃ a, c = .ok a) ↔ fields.Keeps numerals d)
    (herrors : ∀ es, c = .error es → es ≠ [] ∧ es.map (·.path) = fields.places numerals d) :
    c.Covers numerals fields [d] := by
  constructor
  · rw [List.forall_mem_singleton, hok]
  · intro es hes
    have hoffends : ¬ fields.Keeps numerals d := by
      rw [← hok, hes]
      simp
    rw [List.filter_cons_of_pos (by simpa using hoffends), List.filter_nil,
      List.flatMap_singleton]
    exact herrors es hes

theorem Covers.field {name : String} {rule : FieldRule} {read : Value → Except FieldFault α}
    {embed : α → Value} (h : rule.ReadBy numerals read embed) (hrule : rule ≠ .query) :
    (field name read fields).Covers numerals fields [(name, rule)] := by
  apply Covers.of_field
  · simp only [field_eq_ok_iff, Entries.Keeps, h.admits_iff]
    rw [exists_comm]
    simp only [exists_and_left]
  · intro es hes
    rw [Entries.places_of_ne hrule]
    unfold Checked.field at hes
    split at hes
    · rw [← Except.error.inj hes]
      simp
    · split at hes
      · cases hes
      · rw [← Except.error.inj hes]
        simp

theorem Covers.nested {name : String}
    (h : ∀ inner, (Query.ofFields numerals inner).Covers numerals inner Schema.query.declared) :
    (nested name (Query.ofFields numerals) fields).Covers numerals fields [(name, .query)] := by
  apply Covers.of_field
  · simp only [nested_eq_ok_iff, Entries.Keeps, FieldRule.admits_query_iff]
    constructor
    · rintro ⟨q, inner, hv, hq⟩
      exact ⟨_, hv, inner, q, rfl, hq⟩
    · rintro ⟨_, hv, inner, q, rfl, hq⟩
      exact ⟨q, inner, hv, hq⟩
  · intro es hes
    unfold Entries.places
    unfold Checked.nested at hes
    split at hes
    · next hv =>
      rw [← Except.error.inj hes]
      simp [hv]
    · next inner hv =>
      split at hes
      · cases hes
      · next es' herr =>
        obtain ⟨hne, hpaths⟩ := (h inner).errors es' herr
        have hinside := congrArg (List.map (name :: ·))
          (hpaths.trans (Entries.flatMap_places_query inner))
        rw [List.map_map, List.map_map] at hinside
        rw [← Except.error.inj hes, List.map_map]
        refine ⟨by simpa using hne, ?_⟩
        simp only [hv]
        exact hinside
    · next v hne hv =>
      rw [← Except.error.inj hes]
      refine ⟨List.cons_ne_nil _ _, ?_⟩
      split
      · next hinner => exact absurd (Option.some.inj (hv.symm.trans hinner)) (hne _)
      · rfl

theorem field_congr {others : Entries} {name : String} (h : fields.get? name = others.get? name)
    (read : Value → Except FieldFault α) : field name read fields = field name read others := by
  unfold field
  rw [h]

end Checked

theorem FieldRule.ReadBy.holds_iff {α : Type} {numerals : Numerals} {rule : FieldRule}
    {read : Value → Except FieldFault α} {embed : α → Value} (h : rule.ReadBy numerals read embed)
    {name : String} {fields : Entries} {a : α} (ha : field name read fields = .ok a) {w : Value} :
    fields.Holds numerals (name, rule) w ↔ w = embed a := by
  obtain ⟨v, hv, hr⟩ := field_eq_ok_iff.mp ha
  constructor
  · rintro ⟨v', hv', hw⟩
    obtain rfl := Option.some.inj (hv.symm.trans hv')
    obtain ⟨a', hr', rfl⟩ := (h v w).mp hw
    rw [Except.ok.inj (hr.symm.trans hr')]
  · rintro rfl
    exact ⟨v, hv, (h v _).mpr ⟨a, hr, rfl⟩⟩

theorem FieldRule.ReadBy.holds {α : Type} {numerals : Numerals} {rule : FieldRule}
    {read : Value → Except FieldFault α} {embed : α → Value}
    (h : rule.ReadBy numerals read embed) {name : String} {fields : Entries} {a : α}
    (ha : field name read fields = .ok a) : fields.Holds numerals (name, rule) (embed a) :=
  (h.holds_iff ha).mpr rfl

/-- A refused check of the declared fields has its errors in the places of those that offend, and
none for the whole record. -/
theorem Checked.Covers.refused {α : Type} {numerals : Numerals} {c : Checked α}
    {fields : Entries} {schema : Schema} (h : c.Covers numerals fields schema.declared)
    {es : List FieldError} (hes : c = .error es) :
    es ≠ [] ∧
    (fields.offending numerals schema ≠ [] →
      es.map (·.path) = (fields.offending numerals schema).flatMap (fields.places numerals)) ∧
    (fields.offending numerals schema = [] → ∃ e, schema.Mismatch numerals fields e ∧ es = [e]) ∧
    ∀ e ∈ es, e.path = [] → fields.offending numerals schema = [] := by
  obtain ⟨hne, hpaths⟩ := h.errors es hes
  have hoffends : fields.offending numerals schema ≠ [] := by
    rw [Ne, Entries.offending_eq_nil_iff, ← h.ok_iff, hes]
    simp
  refine ⟨hne, fun _ => hpaths, fun hnil => absurd hnil hoffends, fun e he hpath => ?_⟩
  have hmem := List.mem_map_of_mem (f := (·.path)) he
  rw [hpaths, hpath] at hmem
  obtain ⟨d, -, hd⟩ := List.mem_flatMap.mp hmem
  exact absurd hd (fields.nil_not_mem_places d)

/-- Where the fields have nothing to fit, the checks of the fields are all there is. -/
theorem Schema.IsBuiltBy.of_covers {α : Type} {numerals : Numerals} {schema : Schema}
    {build : Entries → Checked α}
    {toFields : α → Entries} (hschema : schema ≠ .unit)
    (hcovers : ∀ fields, (build fields).Covers numerals fields schema.declared)
    (holds : ∀ fields a, build fields = .ok a →
      ∀ d ∈ schema.declared, ∃ w, (toFields a).get? d.1 = some w ∧ fields.Holds numerals d w)
    (congr : ∀ fields others : Entries, fields.AgreeOn schema others → build fields = build others)
    (rebuild : ∀ fields a, build fields = .ok a → build (toFields a) = .ok a) :
    schema.IsBuiltBy numerals build toFields := by
  have hfits : ∀ fields e, ¬ schema.Mismatch numerals fields e := fun _ _ h => hschema h.1
  refine ⟨fun fields => ?_, holds, fun fields es hes => (hcovers fields).refused hes, congr,
    rebuild⟩
  rw [(hcovers fields).ok_iff, and_iff_left (hfits fields)]

/-! ### Queries -/

namespace Query

variable {numerals : Numerals} {fields : Entries} {q : Query}

theorem covers_ofFields (fields : Entries) :
    (ofFields numerals fields).Covers numerals fields Schema.query.declared :=
  ((((Covers.field FieldRule.readBy_quantity (by decide)).map mk).both
    (Covers.field FieldRule.readBy_text (by decide))).both
    (Covers.field FieldRule.readBy_text (by decide))).both
    (Covers.field FieldRule.readBy_text (by decide))

theorem fields_of_ofFields (h : ofFields numerals fields = .ok q) :
    field "quantity" (readQuantity numerals) fields = .ok q.quantity ∧
      field "quantity_text" readText fields = .ok q.quantityText ∧
      field "source_unit" readText fields = .ok q.sourceUnit ∧
      field "target_unit" readText fields = .ok q.targetUnit := by
  obtain ⟨_, _, h₃, htarget, rfl⟩ := both_eq_ok_iff.mp h
  obtain ⟨_, _, h₂, hsource, rfl⟩ := both_eq_ok_iff.mp h₃
  obtain ⟨_, _, h₁, htext, rfl⟩ := both_eq_ok_iff.mp h₂
  obtain ⟨_, hquantity, rfl⟩ := map_eq_ok_iff.mp h₁
  exact ⟨hquantity, htext, hsource, htarget⟩

theorem valid_of_ofFields (h : ofFields numerals fields = .ok q) : q.Valid := by
  obtain ⟨_, -, hread⟩ := field_eq_ok_iff.mp (fields_of_ofFields h).1
  obtain ⟨-, hfinite, hbelow⟩ := readQuantity_eq_ok_iff.mp hread
  exact ⟨hfinite, hbelow⟩

theorem ofFields_congr {others : Entries} (h : fields.AgreeOn .query others) :
    ofFields numerals fields = ofFields numerals others := by
  have hquantity := h.get?_eq (d := ("quantity", .quantity)) (by decide) (by decide)
  have htext := h.get?_eq (d := ("quantity_text", .text)) (by decide) (by decide)
  have hsource := h.get?_eq (d := ("source_unit", .text)) (by decide) (by decide)
  have htarget := h.get?_eq (d := ("target_unit", .text)) (by decide) (by decide)
  unfold ofFields
  rw [field_congr hquantity, field_congr htext, field_congr hsource, field_congr htarget]

theorem isBuiltBy : Schema.query.IsBuiltBy numerals (ofFields numerals) toFields := by
  apply Schema.IsBuiltBy.of_covers (by decide) covers_ofFields
  · intro fields q h
    obtain ⟨hquantity, htext, hsource, htarget⟩ := fields_of_ofFields h
    simp only [Schema.declared, List.forall_mem_cons, List.not_mem_nil, IsEmpty.forall_iff,
      implies_true, and_true]
    exact ⟨⟨_, rfl, FieldRule.readBy_quantity.holds hquantity⟩,
      ⟨_, rfl, FieldRule.readBy_text.holds htext⟩, ⟨_, rfl, FieldRule.readBy_text.holds hsource⟩,
      ⟨_, rfl, FieldRule.readBy_text.holds htarget⟩⟩
  · intro fields others h
    exact ofFields_congr h
  · intro fields q h
    exact (valid_of_ofFields h).ofFields_toFields numerals

end Query

/-! ### Results -/

namespace Conversion

variable {numerals : Numerals} {fields : Entries} {r : Conversion}

theorem covers_ofFields (fields : Entries) :
    (ofFields numerals fields).Covers numerals fields Schema.conversion.declared :=
  (((Covers.field FieldRule.readBy_quantity (by decide)).map mk).both
    (Covers.field FieldRule.readBy_text (by decide))).both
    (Covers.nested Query.covers_ofFields)

theorem fields_of_ofFields (h : ofFields numerals fields = .ok r) :
    field "quantity" (readQuantity numerals) fields = .ok r.quantity ∧
      field "unit" readText fields = .ok r.unit ∧
      nested "query" (Query.ofFields numerals) fields = .ok r.query := by
  obtain ⟨_, _, h₂, hquery, rfl⟩ := both_eq_ok_iff.mp h
  obtain ⟨_, _, h₁, hunit, rfl⟩ := both_eq_ok_iff.mp h₂
  obtain ⟨_, hquantity, rfl⟩ := map_eq_ok_iff.mp h₁
  exact ⟨hquantity, hunit, hquery⟩

theorem valid_of_ofFields (h : ofFields numerals fields = .ok r) : r.Valid := by
  obtain ⟨hquantity, -, hquery⟩ := fields_of_ofFields h
  obtain ⟨_, -, hread⟩ := field_eq_ok_iff.mp hquantity
  obtain ⟨-, hfinite, hbelow⟩ := readQuantity_eq_ok_iff.mp hread
  obtain ⟨_, -, hinner⟩ := nested_eq_ok_iff.mp hquery
  exact ⟨hfinite, hbelow, Query.valid_of_ofFields hinner⟩

theorem ofFields_congr {others : Entries} (h : fields.AgreeOn .conversion others) :
    ofFields numerals fields = ofFields numerals others := by
  have hquantity := h.get?_eq (d := ("quantity", .quantity)) (by decide) (by decide)
  have hunit := h.get?_eq (d := ("unit", .text)) (by decide) (by decide)
  have hquery : nested "query" (Query.ofFields numerals) fields =
      nested "query" (Query.ofFields numerals) others := by
    unfold nested
    rcases h ("query", .query) (by decide) with heq | ⟨-, inner, inner', hi, hi', hinside⟩
    · rw [heq]
    · have hagree : Entries.AgreeOn .query inner inner' := fun d hd => Or.inl (hinside d hd)
      rw [hi, hi']
      dsimp only
      rw [Query.ofFields_congr hagree]
  unfold ofFields
  rw [field_congr hquantity, field_congr hunit, hquery]

theorem isBuiltBy : Schema.conversion.IsBuiltBy numerals (ofFields numerals) toFields := by
  apply Schema.IsBuiltBy.of_covers (by decide) covers_ofFields
  · intro fields r h
    obtain ⟨hquantity, hunit, hquery⟩ := fields_of_ofFields h
    obtain ⟨inner, hinner, hbuilt⟩ := nested_eq_ok_iff.mp hquery
    simp only [Schema.declared, List.forall_mem_cons, List.not_mem_nil, IsEmpty.forall_iff,
      implies_true, and_true]
    exact ⟨⟨_, rfl, FieldRule.readBy_quantity.holds hquantity⟩,
      ⟨_, rfl, FieldRule.readBy_text.holds hunit⟩, ⟨_, rfl, _, hinner, .query hbuilt⟩⟩
  · intro fields others h
    exact ofFields_congr h
  · intro fields r h
    exact (valid_of_ofFields h).ofFields_toFields numerals

end Conversion

/-! ### Units -/

namespace PrefixedUnit

variable {numerals : Numerals} {fields : Entries} {u : PrefixedUnit}

/-- The unit with these fields, before its symbol is compared. -/
def unchecked (numerals : Numerals) (fields : Entries) : Checked PrefixedUnit :=
  both (both (both (both ((field "symbol" readText fields).map mk) (field "prefix" readText fields))
    (field "root_unit" readRoot fields)) (field "exponent" (readExponent numerals) fields))
    (field "multiplier" (readMultiplier numerals) fields)

theorem ofFields_of_unchecked (h : unchecked numerals fields = .ok u) :
    ofFields numerals fields = u.checkSymbol := by
  unfold unchecked at h
  simp only [ofFields, h]

theorem ofFields_of_refused {es : List FieldError} (h : unchecked numerals fields = .error es) :
    ofFields numerals fields = .error es := by
  unfold unchecked at h
  simp only [ofFields, h]

theorem checkSymbol_eq_ok_iff {u' : PrefixedUnit} :
    u.checkSymbol = .ok u' ↔ u.symbol = u.front ++ u.root.symbol ∧ u = u' := by
  unfold checkSymbol
  split_ifs with h <;> simp [h]

theorem checkSymbol_eq_error_iff {es : List FieldError} :
    u.checkSymbol = .error es ↔ u.symbol ≠ u.front ++ u.root.symbol ∧
      es = [⟨[], .symbolMismatch u.symbol u.front u.root.symbol⟩] := by
  unfold checkSymbol
  split_ifs with h <;> simp [h, eq_comm]

theorem covers_unchecked (fields : Entries) :
    (unchecked numerals fields).Covers numerals fields Schema.unit.declared :=
  (((((Covers.field FieldRule.readBy_text (by decide)).map mk).both
    (Covers.field FieldRule.readBy_text (by decide))).both
    (Covers.field FieldRule.readBy_root (by decide))).both
    (Covers.field FieldRule.readBy_exponent (by decide))).both
    (Covers.field FieldRule.readBy_multiplier (by decide))

theorem fields_of_unchecked (h : unchecked numerals fields = .ok u) :
    field "symbol" readText fields = .ok u.symbol ∧
      field "prefix" readText fields = .ok u.front ∧
      field "root_unit" readRoot fields = .ok u.root ∧
      field "exponent" (readExponent numerals) fields = .ok u.exponent ∧
      field "multiplier" (readMultiplier numerals) fields = .ok u.multiplier := by
  obtain ⟨_, _, h₄, hmultiplier, rfl⟩ := both_eq_ok_iff.mp h
  obtain ⟨_, _, h₃, hexponent, rfl⟩ := both_eq_ok_iff.mp h₄
  obtain ⟨_, _, h₂, hroot, rfl⟩ := both_eq_ok_iff.mp h₃
  obtain ⟨_, _, h₁, hfront, rfl⟩ := both_eq_ok_iff.mp h₂
  obtain ⟨_, hsymbol, rfl⟩ := map_eq_ok_iff.mp h₁
  exact ⟨hsymbol, hfront, hroot, hexponent, hmultiplier⟩

theorem ofFields_eq_ok_iff :
    ofFields numerals fields = .ok u ↔
      unchecked numerals fields = .ok u ∧ u.symbol = u.front ++ u.root.symbol := by
  cases h : unchecked numerals fields with
  | error es => simp [ofFields_of_refused h]
  | ok u' =>
    rw [ofFields_of_unchecked h, checkSymbol_eq_ok_iff, Except.ok.injEq]
    constructor
    · rintro ⟨hs, rfl⟩
      exact ⟨rfl, hs⟩
    · rintro ⟨rfl, hs⟩
      exact ⟨hs, rfl⟩

/-- The fields of a unit do not fit if its symbol is not its prefix and its root. -/
theorem mismatch_iff (h : unchecked numerals fields = .ok u) {e : FieldError} :
    Schema.unit.Mismatch numerals fields e ↔ u.symbol ≠ u.front ++ u.root.symbol ∧
      e = ⟨[], .symbolMismatch u.symbol u.front u.root.symbol⟩ := by
  obtain ⟨hsymbol, hfront, hroot, -⟩ := fields_of_unchecked h
  unfold Schema.Mismatch
  simp only [true_and, FieldRule.readBy_text.holds_iff hsymbol,
    FieldRule.readBy_text.holds_iff hfront, FieldRule.readBy_root.holds_iff hroot, Value.text.injEq]
  constructor
  · rintro ⟨_, _, _, rfl, rfl, rfl, hne, rfl⟩
    exact ⟨hne, rfl⟩
  · rintro ⟨hne, rfl⟩
    exact ⟨_, _, _, rfl, rfl, rfl, hne, rfl⟩

theorem valid_of_ofFields (h : ofFields numerals fields = .ok u) : u.Valid := by
  obtain ⟨hu, hsymbol⟩ := ofFields_eq_ok_iff.mp h
  obtain ⟨-, -, -, hexponent, hmultiplier⟩ := fields_of_unchecked hu
  obtain ⟨_, -, hread⟩ := field_eq_ok_iff.mp hexponent
  obtain ⟨-, hl, hh⟩ := readExponent_eq_ok_iff.mp hread
  obtain ⟨_, -, hread⟩ := field_eq_ok_iff.mp hmultiplier
  exact ⟨hsymbol, hl, hh, (readMultiplier_eq_ok_iff.mp hread).2⟩

theorem unchecked_congr {others : Entries} (h : fields.AgreeOn .unit others) :
    unchecked numerals fields = unchecked numerals others := by
  have hsymbol := h.get?_eq (d := ("symbol", .text)) (by decide) (by decide)
  have hfront := h.get?_eq (d := ("prefix", .text)) (by decide) (by decide)
  have hroot := h.get?_eq (d := ("root_unit", .root)) (by decide) (by decide)
  have hexponent := h.get?_eq (d := ("exponent", .exponent)) (by decide) (by decide)
  have hmultiplier := h.get?_eq (d := ("multiplier", .multiplier)) (by decide) (by decide)
  unfold unchecked
  rw [field_congr hsymbol, field_congr hfront, field_congr hroot, field_congr hexponent,
    field_congr hmultiplier]

theorem isBuiltBy : Schema.unit.IsBuiltBy numerals (ofFields numerals) toFields := by
  constructor
  case succeeds_iff =>
    intro fields
    rw [← (covers_unchecked fields).ok_iff]
    cases hu : unchecked numerals fields with
    | error es => simp [ofFields_of_refused hu]
    | ok u =>
      simp only [ofFields_of_unchecked hu, checkSymbol_eq_ok_iff, mismatch_iff hu]
      constructor
      · rintro ⟨_, hsymbol, -⟩
        exact ⟨⟨u, rfl⟩, fun e h => h.1 hsymbol⟩
      · rintro ⟨-, hfits⟩
        exact ⟨u, not_ne_iff.mp fun hne => hfits _ ⟨hne, rfl⟩, rfl⟩
  case holds =>
    intro fields u h
    obtain ⟨hsymbol, hfront, hroot, hexponent, hmultiplier⟩ :=
      fields_of_unchecked (ofFields_eq_ok_iff.mp h).1
    simp only [Schema.declared, List.forall_mem_cons, List.not_mem_nil, IsEmpty.forall_iff,
      implies_true, and_true]
    exact ⟨⟨_, rfl, FieldRule.readBy_text.holds hsymbol⟩,
      ⟨_, rfl, FieldRule.readBy_text.holds hfront⟩, ⟨_, rfl, FieldRule.readBy_root.holds hroot⟩,
      ⟨_, rfl, FieldRule.readBy_exponent.holds hexponent⟩,
      ⟨_, rfl, FieldRule.readBy_multiplier.holds hmultiplier⟩⟩
  case errors =>
    intro fields es hes
    cases hu : unchecked numerals fields with
    | error es' =>
      obtain rfl := Except.error.inj ((ofFields_of_refused hu).symm.trans hes)
      exact (covers_unchecked fields).refused hu
    | ok u =>
      rw [ofFields_of_unchecked hu, checkSymbol_eq_error_iff] at hes
      obtain ⟨hne, rfl⟩ := hes
      have hkeep : fields.offending numerals .unit = [] :=
        Entries.offending_eq_nil_iff.mpr ((covers_unchecked fields).ok_iff.mp ⟨u, hu⟩)
      exact ⟨List.cons_ne_nil _ _, fun h => absurd hkeep h,
        fun _ => ⟨_, (mismatch_iff hu).mpr ⟨hne, rfl⟩, rfl⟩, fun _ _ _ => hkeep⟩
  case congr =>
    intro fields others h
    have hu : unchecked numerals fields = unchecked numerals others := unchecked_congr h
    cases hf : unchecked numerals fields with
    | error es => rw [ofFields_of_refused hf, ofFields_of_refused (hu.symm.trans hf)]
    | ok u => rw [ofFields_of_unchecked hf, ofFields_of_unchecked (hu.symm.trans hf)]
  case rebuild =>
    intro fields u h
    exact (valid_of_ofFields h).ofFields_toFields numerals

end PrefixedUnit

/-- A query, a unit or a result is built from fields exactly if each declared field is there and
keeps its rule and, for a unit, the symbol is the prefix followed by the root. Otherwise there is
one error for each offending field, in the order of the declaration, and that of the symbol only if
there is none. Other fields do not matter, and what was built is built again from its own fields.
All this holds whichever texts are read as numbers. -/
theorem Schema.constructions (numerals : Numerals) :
    Schema.query.IsBuiltBy numerals (Query.ofFields numerals) Query.toFields ∧
    Schema.unit.IsBuiltBy numerals (PrefixedUnit.ofFields numerals) PrefixedUnit.toFields ∧
    Schema.conversion.IsBuiltBy numerals (Conversion.ofFields numerals) Conversion.toFields :=
  ⟨Query.isBuiltBy, PrefixedUnit.isBuiltBy, Conversion.isBuiltBy⟩

end SIUnits
