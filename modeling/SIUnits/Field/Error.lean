import SIUnits.Text.Quoted
import SIUnits.Decimal.Digits

/-! What may be wrong with a field of a record that is to become a query, a unit or a result. -/
namespace SIUnits

inductive FieldFault where
  | missing
  | notText
  | notNumber
  /-- A text where a number should be. -/
  | notNumeral
  | notFinite
  | atLeast (bound : Int)
  | atMost (bound : Int)
  | above (bound : Int)
  | notInteger
  /-- A text where a whole number should be. -/
  | notIntegerNumeral
  | fractional
  /-- A double that is no integer of 64 bits. -/
  | oversized
  /-- The symbol of no root unit. -/
  | notRoot
  | notQuery
  /-- A unit whose symbol is not its prefix followed by its root. -/
  | symbolMismatch (symbol front root : String)
  /-- A field of a finished value cannot be replaced. -/
  | frozen
deriving DecidableEq

namespace FieldFault

def code : FieldFault → String
  | .missing => "missing"
  | .notText => "string_type"
  | .notNumber => "float_type"
  | .notNumeral => "float_parsing"
  | .notFinite => "finite_number"
  | .atLeast _ => "greater_than_equal"
  | .atMost _ => "less_than_equal"
  | .above _ => "greater_than"
  | .notInteger => "int_type"
  | .notIntegerNumeral => "int_parsing"
  | .fractional => "int_from_float"
  | .oversized => "int_parsing_size"
  | .notRoot => "enum"
  | .notQuery => "model_type"
  | .symbolMismatch .. => "value_error"
  | .frozen => "frozen_instance"

private def bounded (relation : String) (bound : Int) : String :=
  "Input should be " ++ relation ++ " " ++ String.ofList (Decimal.integer bound)

def message : FieldFault → String
  | .missing => "Field required"
  | .notText => "Input should be a valid string"
  | .notNumber => "Input should be a valid number"
  | .notNumeral => "Input should be a valid number, unable to parse string as a number"
  | .notFinite => "Input should be a finite number"
  | .atLeast bound => bounded "greater than or equal to" bound
  | .atMost bound => bounded "less than or equal to" bound
  | .above bound => bounded "greater than" bound
  | .notInteger => "Input should be a valid integer"
  | .notIntegerNumeral =>
    "Input should be a valid integer, unable to parse string as an integer"
  | .fractional => "Input should be a valid integer, got a number with a fractional part"
  | .oversized => "Unable to parse input string as an integer, exceeded maximum size"
  | .notRoot => "Input should be 'm', 'g', 's', 'A', 'K', 'cd' or 'mol'"
  | .notQuery => "Input should be a valid dictionary or instance of Query"
  | .symbolMismatch symbol front root =>
    "Value error, symbol " ++ Text.quoted symbol ++ " does not match " ++ Text.quoted front ++
      " + " ++ Text.quoted root
  | .frozen => "Instance is frozen"

end FieldFault

/-- A fault and where it is: the names of the fields on the way to it, none for the whole
record. -/
structure FieldError where
  path : List String
  fault : FieldFault
deriving DecidableEq

def FieldError.under (name : String) (e : FieldError) : FieldError := ⟨name :: e.path, e.fault⟩

end SIUnits
