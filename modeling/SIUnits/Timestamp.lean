import SIUnits.Decimal.Layout

/-! Points in time on a calendar, to the microsecond. -/
namespace SIUnits

structure Timestamp where
  year : Nat
  month : Nat
  day : Nat
  hour : Nat
  minute : Nat
  second : Nat
  microsecond : Nat
deriving DecidableEq

namespace Timestamp

open Decimal

private def field (width n : Nat) : String :=
  String.ofList (Layout.padLeft width (Digits.ofNat n)).toChars

/-- The date and the time of day in the form of ISO 8601, without a fraction where the microseconds
are zero. -/
def text (t : Timestamp) : String :=
  field 4 t.year ++ "-" ++ field 2 t.month ++ "-" ++ field 2 t.day ++ "T" ++
    field 2 t.hour ++ ":" ++ field 2 t.minute ++ ":" ++ field 2 t.second ++
    (if t.microsecond = 0 then "" else "." ++ field 6 t.microsecond)

end Timestamp

end SIUnits
