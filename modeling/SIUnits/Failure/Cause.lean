import SIUnits.Failure.Kind
import SIUnits.Value.Basic

/-! What may be wrong with a query, a number or a unit. Each cause has a kind, a message, the token
that it is about, and entries of its own for the context. The optional details of a cause may be any
values. -/
namespace SIUnits.Failure

inductive Cause where
  /-- The line is not four fields with an equals sign as the third. -/
  | malformedQuery (line : String) (tokenCount : Option Value)
  | invalidNumber (token : String)
  | negativeNumber (token : String) (value : Option Value)
  /-- The token ends with no root unit. -/
  | unknownRootUnit (token : String) (validUnits : Value)
  | unknownPrefix (token front : String)
  | rootUnitMismatch (sourceRoot targetRoot : String) (sourceUnit targetUnit : Option String)
  /-- The converted quantity is beyond the largest double. -/
  | conversionOverflow (quantityText sourceUnit targetUnit : String)
  /-- A failure of another kind, with everything said by whoever reports it. -/
  | other (kind : Kind) (message : String) (code token : Option String)
  /-- A kind of its own for a cause that is otherwise as given. -/
  | refined (kind : Kind) (cause : Cause)

/-- The text if there is one and it is not empty, else the other. -/
def nonemptyOr (text : Option String) (other : String) : String :=
  match text with
  | some s => if s = "" then other else s
  | none => other

namespace Cause

def kind : Cause → Kind
  | .malformedQuery .. => Family.query.kind "MalformedQuery"
  | .invalidNumber .. => Family.query.kind "InvalidNumber"
  | .negativeNumber .. => Family.query.kind "NegativeNumber"
  | .unknownRootUnit .. => Family.unit.kind "UnknownRootUnit"
  | .unknownPrefix .. => Family.unit.kind "UnknownPrefix"
  | .rootUnitMismatch .. => Family.unit.kind "RootUnitMismatch"
  | .conversionOverflow .. => Family.unit.kind "ConversionOverflow"
  | .other kind .. => kind
  | .refined kind _ => kind

def message : Cause → String
  | .malformedQuery line _ =>
    "'" ++ line ++ "' is not a valid query, expected '<number> <unit> = <unit>'"
  | .invalidNumber token => "'" ++ token ++ "' is not a valid number"
  | .negativeNumber token _ =>
    "'" ++ token ++ "' is a negative number, quantities must be zero or greater"
  | .unknownRootUnit token _ =>
    "'" ++ token ++ "' is not a valid unit, it does not end with an SI base unit"
  | .unknownPrefix token front => "'" ++ front ++ "' in '" ++ token ++ "' is not a valid SI prefix"
  | .rootUnitMismatch sourceRoot targetRoot sourceUnit targetUnit =>
    "cannot convert '" ++ nonemptyOr sourceUnit sourceRoot ++ "' to '" ++
      nonemptyOr targetUnit targetRoot ++ "', root units '" ++ sourceRoot ++ "' and '" ++
      targetRoot ++ "' do not match"
  | .conversionOverflow quantityText sourceUnit targetUnit =>
    "'" ++ quantityText ++ " " ++ sourceUnit ++ "' is too large to express in '" ++
      targetUnit ++ "'"
  | .other _ message _ _ => message
  | .refined _ cause => cause.message

def token : Cause → Option String
  | .malformedQuery line _ => some line
  | .invalidNumber token => some token
  | .negativeNumber token _ => some token
  | .unknownRootUnit token _ => some token
  | .unknownPrefix token _ => some token
  | .rootUnitMismatch _ targetRoot _ targetUnit => some (nonemptyOr targetUnit targetRoot)
  | .conversionOverflow quantityText _ _ => some quantityText
  | .other _ _ _ token => token
  | .refined _ cause => cause.token

def code : Cause → String
  | .other kind _ code _ => nonemptyOr code kind.code
  | cause => cause.kind.code

def entries : Cause → Entries
  | .malformedQuery line tokenCount =>
    ("line", .text line) :: (tokenCount.map fun n => ("token_count", n)).toList
  | .invalidNumber _ => []
  | .negativeNumber _ value => (value.map fun v => ("value", v)).toList
  | .unknownRootUnit _ validUnits =>
    if validUnits.isVoid then [] else [("valid_units", validUnits)]
  | .unknownPrefix _ front => [("prefix", .text front)]
  | .rootUnitMismatch sourceRoot targetRoot _ _ =>
    [("source_root", .text sourceRoot), ("target_root", .text targetRoot)]
  | .conversionOverflow _ sourceUnit targetUnit =>
    [("source_unit", .text sourceUnit), ("target_unit", .text targetUnit)]
  | .other .. => []
  | .refined _ cause => cause.entries

end Cause

end SIUnits.Failure
