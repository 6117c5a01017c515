import SIUnits.Binary64.Arithmetic
import SIUnits.Decimal.Reading
import SIUnits.Field.Error
import SIUnits.Unit.Root
import SIUnits.Value.Basic

/-! Reading a record field by field. All fields are read, and all errors are kept in the order of
the fields. -/
namespace SIUnits

/-- A value, or all that is wrong with the fields it should come from. -/
abbrev Checked (α : Type) := Except (List FieldError) α

/-- What is made of texts where numbers are asked for. -/
structure Numerals where
  number : String → Except FieldFault Binary64
  integer : String → Except FieldFault Int

/-- Decimal literals are numbers, and those without a point and an exponent are whole ones. -/
def Numerals.plain : Numerals where
  number s :=
    match Decimal.Literal.ofString? s with
    | some literal => .ok literal.toBinary64
    | none => .error .notNumeral
  integer s :=
    match Decimal.Literal.ofString? s with
    | some ⟨sign, whole, none, none⟩ =>
      .ok (if sign = some .minus then -whole.value else whole.value)
    | _ => .error .notIntegerNumeral

namespace Checked

variable {α β : Type}

/-- Apply to one more field; errors on both sides are joined. -/
def both : Checked (α → β) → Checked α → Checked β
  | .ok f, .ok a => .ok (f a)
  | .ok _, .error es => .error es
  | .error es, .ok _ => .error es
  | .error es, .error fs => .error (es ++ fs)

def field (name : String) (read : Value → Except FieldFault α) (fields : Entries) : Checked α :=
  match fields.get? name with
  | none => .error [⟨[name], .missing⟩]
  | some v =>
    match read v with
    | .ok a => .ok a
    | .error fault => .error [⟨[name], fault⟩]

def nested (name : String) (read : Entries → Checked α) (fields : Entries) : Checked α :=
  match fields.get? name with
  | none => .error [⟨[name], .missing⟩]
  | some (.record inner) =>
    match read inner with
    | .ok a => .ok a
    | .error es => .error (es.map (·.under name))
  | some _ => .error [⟨[name], .notQuery⟩]

/-- A name that starts with an underscore is a note on the side and never a field's. -/
def isNote (name : String) : Bool := name.toList.head? = some '_'

/-- A finished value refuses to have a field replaced; a note changes nothing in it. -/
def assign (built : Checked α) (name : String) : Checked α :=
  match built with
  | .ok a => if isNote name then .ok a else .error [⟨[name], .frozen⟩]
  | .error es => .error es

def readText : Value → Except FieldFault String
  | .text s => .ok s
  | _ => .error .notText

variable (numerals : Numerals)

/-- A double, or a whole number that some double is near. The truth values count as one and zero. -/
def readNumber : Value → Except FieldFault Binary64
  | .number x => .ok x
  | .integer n => if (Binary64.ofInt n).isFinite then .ok (.ofInt n) else .error .notNumber
  | .boolean b => .ok (.ofInt b.toInt)
  | .text s => numerals.number s
  | _ => .error .notNumber

def readQuantity (v : Value) : Except FieldFault Binary64 := do
  let x ← readNumber numerals v
  if !x.isFinite then .error .notFinite
  else if x.isBelowZero then .error (.atLeast 0)
  else .ok x

def readMultiplier (v : Value) : Except FieldFault Binary64 := do
  let x ← readNumber numerals v
  if x.isAboveZero then .ok x else .error (.above 0)

/-- A whole number, or a double that is one and less than `2 ^ 63` in size. -/
def readInteger : Value → Except FieldFault Int
  | .integer n => .ok n
  | .boolean b => .ok b.toInt
  | .number x =>
    match x.toInt? with
    | some n => if n.natAbs < 0x8000000000000000 then .ok n else .error .oversized
    | none => .error (if x.isFinite then .fractional else .notFinite)
  | .text s => numerals.integer s
  | _ => .error .notInteger

def readExponent (v : Value) : Except FieldFault Int := do
  let n ← readInteger numerals v
  if n < -24 then .error (.atLeast (-24))
  else if 24 < n then .error (.atMost 24)
  else .ok n

def readRoot : Value → Except FieldFault Root
  | .text s =>
    match Root.ofSymbol? s with
    | some root => .ok root
    | none => .error .notRoot
  | _ => .error .notRoot

end Checked

end SIUnits
