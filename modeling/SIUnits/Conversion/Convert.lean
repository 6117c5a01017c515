import SIUnits.Amount
import SIUnits.Conversion.Basic
import SIUnits.Query.Parse
import SIUnits.Unit.Prefixed

/-! Conversion between units of one root, of a query, of a bare amount and of a line. -/
namespace SIUnits

/-- The quantity times the source multiplier over the target multiplier. Where that is infinite the
quotient of the multipliers is taken first, as the product alone may be too large. -/
def convertQuantity (quantity source target : Binary64) : Binary64 :=
  let direct := quantity * source / target
  if direct.isFinite then direct else quantity * (source / target)

def Query.convert (query : Query) : Traced Fault Conversion := do
  let source ← PrefixedUnit.resolve query.sourceUnit
  let target ← PrefixedUnit.resolve query.targetUnit
  if source.root ≠ target.root then
    .failWith (.rootUnitMismatch source.root.symbol target.root.symbol
      (some source.symbol) (some target.symbol)) []
  else
    let quantity := convertQuantity query.quantity source.multiplier target.multiplier
    if !quantity.isFinite then
      .failWith (.conversionOverflow query.quantityText query.sourceUnit query.targetUnit) []
    else
      .log .debug .conversions ("Converted " ++ query.quantity.text ++ " " ++ query.sourceUnit ++
        " -> " ++ quantity.text ++ " " ++ query.targetUnit)
      Conversion.checked ⟨quantity, query.targetUnit, query⟩

def Amount.convert (amount : Amount) (source target : String) : Traced Fault Binary64 := do
  let x := amount.toBinary64
  if !x.isFinite then
    match amount with
    | .whole _ => .fail .tooLarge
    | .number _ => .failWith (.invalidNumber amount.text) [("reason", .text "not finite")]
  else if x.isBelowZero then
    .failWith (.negativeNumber amount.text (some amount.toValue)) []
  else
    let query ← Query.checked ⟨x, x.text, source, target⟩
    let result ← query.convert
    return result.quantity

/-- Convert an amount along a list of units, from each to the next. A step that fails leaves the
amount as it is for the next one. -/
def Amount.convertAlong (amount : Amount) : List String → List (Except Fault Binary64)
  | source :: target :: units =>
    match (amount.convert source target).result with
    | .ok x => .ok x :: Amount.convertAlong (.number x) (target :: units)
    | .error fault => .error fault :: amount.convertAlong (target :: units)
  | _ => []

def PrefixedUnit.isCompatible (first second : String) : Traced Fault Bool := do
  if PrefixedUnit.isValid first && PrefixedUnit.isValid second then
    let first ← PrefixedUnit.resolve first
    let second ← PrefixedUnit.resolve second
    return decide (first.root = second.root)
  else
    return false

def convertLine (line : String) : Traced Fault Conversion := do
  let query ← Query.parse line
  query.convert

end SIUnits
