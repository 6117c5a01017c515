import SIUnits.Decimal.Layout
import SIUnits.Text.Quoted
import SIUnits.Value.Basic

/-! The one-line form of a value: texts quoted, lists in brackets, records in braces. -/
namespace SIUnits

def joinWith (separator : String) (parts : List String) : String :=
  separator.intercalate parts

mutual

def Value.display : Value → String
  | .null => "None"
  | .boolean b => if b then "True" else "False"
  | .integer n => String.ofList (Decimal.integer n)
  | .number x => x.text
  | .text s => Text.quoted s
  | .list items => "[" ++ joinWith ", " (displayItems items) ++ "]"
  | .record entries => "\x7b" ++ joinWith ", " (displayEntries entries) ++ "\x7d"

def displayItems : List Value → List String
  | [] => []
  | v :: rest => v.display :: displayItems rest

def displayEntries : List (String × Value) → List String
  | [] => []
  | (key, v) :: rest => (Text.quoted key ++ ": " ++ v.display) :: displayEntries rest

end

end SIUnits
