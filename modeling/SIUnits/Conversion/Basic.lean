import SIUnits.Query.Basic
import SIUnits.Value.Display

/-! The result of a conversion: the converted quantity in its unit, with the query that asked
for it. -/
namespace SIUnits

structure Conversion where
  quantity : Binary64
  unit : String
  query : Query
deriving DecidableEq

namespace Conversion

open Checked

def toFields (r : Conversion) : Entries :=
  [("quantity", .number r.quantity), ("unit", .text r.unit),
    ("query", .record r.query.toFields)]

def ofFields (numerals : Numerals) (fields : Entries) : Checked Conversion :=
  let quantity := field "quantity" (readQuantity numerals) fields
  let unit := field "unit" readText fields
  let query := nested "query" (Query.ofFields numerals) fields
  both (both (quantity.map mk) unit) query

/-- Go on with a result if it keeps the rules of results. -/
def checked (r : Conversion) : Traced Fault Conversion :=
  .built .conversion (ofFields .plain r.toFields)

def text (r : Conversion) : String :=
  r.query.quantityText ++ " " ++ r.query.sourceUnit ++ " = " ++ r.quantity.text ++ " " ++ r.unit

end Conversion

end SIUnits
