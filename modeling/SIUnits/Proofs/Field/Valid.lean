import SIUnits.Conversion.Basic
import SIUnits.Unit.Prefixed

/-! The rules that a built value keeps, and that its own fields are always read back: a value that
keeps the rules is built again from them. -/
namespace SIUnits

namespace Checked

variable {α : Type} {fields : Entries} {name : String} {v : Value} {numerals : Numerals}

theorem field_of_ok {read : Value → Except FieldFault α} {a : α} (hv : fields.get? name = some v)
    (hr : read v = .ok a) : field name read fields = .ok a := by
  simp only [field, hv, hr]

theorem nested_of_ok {read : Entries → Checked α} {inner : Entries} {a : α}
    (hv : fields.get? name = some (.record inner)) (hr : read inner = .ok a) :
    nested name read fields = .ok a := by
  simp only [nested, hv, hr]

theorem readQuantity_number {x : Binary64} (hf : x.isFinite = true) (hb : x.isBelowZero = false) :
    readQuantity numerals (.number x) = .ok x := by
  simp [readQuantity, readNumber, bind, Except.bind, hf, hb]

theorem readMultiplier_number {x : Binary64} (h : x.isAboveZero = true) :
    readMultiplier numerals (.number x) = .ok x := by
  simp [readMultiplier, readNumber, bind, Except.bind, h]

theorem readExponent_integer {n : Int} (hl : -24 ≤ n) (hh : n ≤ 24) :
    readExponent numerals (.integer n) = .ok n := by
  have hl' : ¬ n < -24 := by omega
  have hh' : ¬ 24 < n := by omega
  simp [readExponent, readInteger, bind, Except.bind, hl', hh']

theorem readRoot_symbol (root : Root) : readRoot (.text root.symbol) = .ok root := by
  cases root <;> rfl

end Checked

open Checked

/-! The fields of a value hold no text where a number is asked for, so it does not matter what
would be made of one. -/

theorem Query.ofFields_toFields_eq (numerals : Numerals) (q : Query) :
    ofFields numerals q.toFields = ofFields .plain q.toFields := (rfl)

theorem PrefixedUnit.ofFields_toFields_eq (numerals : Numerals) (u : PrefixedUnit) :
    ofFields numerals u.toFields = ofFields .plain u.toFields := (rfl)

theorem Conversion.ofFields_toFields_eq (numerals : Numerals) (r : Conversion) :
    ofFields numerals r.toFields = ofFields .plain r.toFields := (rfl)

/-- A quantity is finite and not below zero. -/
structure Query.Valid (q : Query) : Prop where
  finite : q.quantity.isFinite = true
  notBelowZero : q.quantity.isBelowZero = false

theorem Query.Valid.ofFields_toFields {q : Query} (h : q.Valid) (numerals : Numerals) :
    Query.ofFields numerals q.toFields = .ok q := by
  have hq : field "quantity" (readQuantity numerals) q.toFields = .ok q.quantity :=
    field_of_ok rfl (readQuantity_number h.finite h.notBelowZero)
  have ht : field "quantity_text" readText q.toFields = .ok q.quantityText := field_of_ok rfl rfl
  have hs : field "source_unit" readText q.toFields = .ok q.sourceUnit := field_of_ok rfl rfl
  have hu : field "target_unit" readText q.toFields = .ok q.targetUnit := field_of_ok rfl rfl
  simp only [Query.ofFields, hq, ht, hs, hu, Except.map, both]

theorem Query.Valid.checked {q : Query} (h : q.Valid) : q.checked.result = .ok q := by
  rw [Query.checked, h.ofFields_toFields .plain]
  rfl

/-- A unit is spelled by its prefix and its root, its power of ten is one of a prefix, and its
multiplier is above zero. -/
structure PrefixedUnit.Valid (u : PrefixedUnit) : Prop where
  symbol_eq : u.symbol = u.front ++ u.root.symbol
  exponent_ge : -24 ≤ u.exponent
  exponent_le : u.exponent ≤ 24
  multiplier_pos : u.multiplier.isAboveZero = true

theorem PrefixedUnit.Valid.ofFields_toFields {u : PrefixedUnit} (h : u.Valid)
    (numerals : Numerals) : PrefixedUnit.ofFields numerals u.toFields = .ok u := by
  have hs : field "symbol" readText u.toFields = .ok u.symbol := field_of_ok rfl rfl
  have hf : field "prefix" readText u.toFields = .ok u.front := field_of_ok rfl rfl
  have hr : field "root_unit" readRoot u.toFields = .ok u.root :=
    field_of_ok rfl (readRoot_symbol u.root)
  have he : field "exponent" (readExponent numerals) u.toFields = .ok u.exponent :=
    field_of_ok rfl (readExponent_integer h.exponent_ge h.exponent_le)
  have hm : field "multiplier" (readMultiplier numerals) u.toFields = .ok u.multiplier :=
    field_of_ok rfl (readMultiplier_number h.multiplier_pos)
  have hc : u.checkSymbol = .ok u := if_pos h.symbol_eq
  simp only [PrefixedUnit.ofFields, hs, hf, hr, he, hm, Except.map, both]
  exact hc

/-- A result has a quantity of its own, and a query that keeps its rules. -/
structure Conversion.Valid (r : Conversion) : Prop where
  finite : r.quantity.isFinite = true
  notBelowZero : r.quantity.isBelowZero = false
  query : r.query.Valid

theorem Conversion.Valid.ofFields_toFields {r : Conversion} (h : r.Valid) (numerals : Numerals) :
    Conversion.ofFields numerals r.toFields = .ok r := by
  have hq : field "quantity" (readQuantity numerals) r.toFields = .ok r.quantity :=
    field_of_ok rfl (readQuantity_number h.finite h.notBelowZero)
  have hu : field "unit" readText r.toFields = .ok r.unit := field_of_ok rfl rfl
  have hn : nested "query" (Query.ofFields numerals) r.toFields = .ok r.query :=
    nested_of_ok rfl (h.query.ofFields_toFields numerals)
  simp only [Conversion.ofFields, hq, hu, hn, Except.map, both]

theorem Conversion.Valid.checked {r : Conversion} (h : r.Valid) : r.checked.result = .ok r := by
  rw [Conversion.checked, h.ofFields_toFields .plain]
  rfl

end SIUnits
