import SIUnits.Conversion.Convert

/-! The outcome of a line: either a result or the failure that stopped its conversion. -/
namespace SIUnits

structure Outcome where
  line : String
  result : Option Conversion
  failure : Option Failure

namespace Outcome

def isOk (o : Outcome) : Bool := o.failure.isNone

def failureMessage (line : String) (f : Failure) : String :=
  "Conversion of " ++ Text.quoted line ++ " failed: [" ++ f.code ++ "] " ++ f.message

/-- Convert a line and keep a failure as part of the outcome. -/
def ofLine (line : String) : Traced Fault Outcome :=
  let attempt := convertLine line
  match attempt.result with
  | .ok r => ⟨attempt.records, .ok ⟨line, some r, none⟩⟩
  | .error (.failure f) =>
    ⟨attempt.records ++ [⟨.info, .outcomes, failureMessage line f⟩], .ok ⟨line, none, some f⟩⟩
  | .error fault => ⟨attempt.records, .error fault⟩

end Outcome

end SIUnits
