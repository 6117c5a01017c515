import SIUnits.Text.Uppercase

/-! Kinds of failure and their codes. A code is the stem of the kind and its name in capitals, with
an underscore before every capital that starts a word. -/
namespace SIUnits.Failure

/-- The families of failures; every failure is in the general one. -/
inductive Family where
  | general
  | query
  | unit
deriving DecidableEq

/-- A kind of failure: how it is called, the stem of its codes, and its closest family. -/
structure Kind where
  name : String
  stem : String
  family : Family
deriving DecidableEq

namespace Family

def name : Family → String
  | .general => "MetricConverterException"
  | .query => "QueryException"
  | .unit => "UnitException"

def stem : Family → String
  | .general => "MC"
  | .query => "MC_QUERY"
  | .unit => "MC_UNIT"

def kind (family : Family) (name : String) : Kind := ⟨name, family.stem, family⟩

def itself (family : Family) : Kind := family.kind family.name

def withParents : Family → List Family
  | .general => [.general]
  | family => [family, .general]

end Family

def isCapital (c : Char) : Bool := 'A' ≤ c && c ≤ 'Z'

/-- The name with an underscore before each capital but the first character. -/
def separateWords : List Char → List Char
  | [] => []
  | c :: cs => c :: cs.flatMap fun d => if isCapital d then ['_', d] else [d]

/-- The code of a failure of this kind that has none of its own. -/
def Kind.code (kind : Kind) : String :=
  kind.stem ++ "_" ++ Text.upper (String.ofList (separateWords kind.name.toList))

end SIUnits.Failure
