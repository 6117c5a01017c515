import SIUnits.Fault

/-! A conversion query: a quantity with the text that it was read from, and the units to convert
from and to. -/
namespace SIUnits

structure Query where
  quantity : Binary64
  quantityText : String
  sourceUnit : String
  targetUnit : String
deriving DecidableEq

namespace Query

open Checked

def toFields (q : Query) : Entries :=
  [("quantity", .number q.quantity), ("quantity_text", .text q.quantityText),
    ("source_unit", .text q.sourceUnit), ("target_unit", .text q.targetUnit)]

def ofFields (numerals : Numerals) (fields : Entries) : Checked Query :=
  let quantity := field "quantity" (readQuantity numerals) fields
  let quantityText := field "quantity_text" readText fields
  let sourceUnit := field "source_unit" readText fields
  let targetUnit := field "target_unit" readText fields
  both (both (both (quantity.map mk) quantityText) sourceUnit) targetUnit

/-- Go on with a query if it keeps the rules of queries. -/
def checked (q : Query) : Traced Fault Query := .built .query (ofFields .plain q.toFields)

end Query

end SIUnits
