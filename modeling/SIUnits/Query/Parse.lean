import SIUnits.Decimal.Layout
import SIUnits.Decimal.NumberText
import SIUnits.Query.Basic

/-! Reading a query line: a number, a unit, an equals sign and a unit, with one space between any
two of them. -/
namespace SIUnits

/-- The quantity that a token stands for: a decimal literal whose nearest double is finite and not
below zero. A negative zero counts as zero. -/
def Query.quantityOf (token : String) : Except Fault Binary64 :=
  let refuse reason := .error (.failure ⟨.invalidNumber token, [("reason", .text reason)]⟩)
  match Decimal.Literal.ofString? token with
  | none => refuse "not a decimal literal"
  | some _ =>
    match Binary64.ofText? token with
    | none => .error (.unreadable token)
    | some x =>
      if !x.isFinite then refuse "not finite"
      else if x.isBelowZero then
        .error (.failure (.ofCause (.negativeNumber token (some (.number x)))))
      else .ok x.withoutSignedZero

/-- The parts of a text between its spaces; there is one more of them than of spaces. -/
def Text.splitSpaces (s : String) : List String :=
  (s.toList.splitOn ' ').map String.ofList

namespace Query

def parse (line : String) : Traced Fault Query := do
  match Text.splitSpaces line with
  | [quantityText, sourceUnit, separator, targetUnit] =>
    if separator = "=" then
      match quantityOf quantityText with
      | .error fault => .fail fault
      | .ok quantity =>
        .log .debug .queries ("Parsed query " ++ Text.quoted line ++ ": quantity=" ++
          quantity.text ++ " source=" ++ sourceUnit ++ " target=" ++ targetUnit)
        checked ⟨quantity, quantityText, sourceUnit, targetUnit⟩
    else
      .failWith (.malformedQuery line (some (.integer 4))) [("separator", .text separator)]
  | tokens => .failWith (.malformedQuery line (some (.integer tokens.length))) []

end Query

end SIUnits
