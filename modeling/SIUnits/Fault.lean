import SIUnits.Failure.Basic
import SIUnits.Log.Traced
import SIUnits.Field.Checked

/-! What may end a computation: a failure that is reported to whoever asked, a value that breaks the
rules of its own kind, a whole number that no double is near or that is too long to be written, or a
text that is not read as a number. -/
namespace SIUnits

/-- The kinds of values that are read from records and checked when they are built. -/
inductive Schema where
  | query
  | unit
  | conversion
deriving DecidableEq

inductive Fault where
  | failure (f : Failure)
  | invalid (schema : Schema) (errors : List FieldError)
  | tooLarge
  | tooManyDigits
  | unreadable (text : String)

namespace Traced

def failWith {α : Type} (cause : Failure.Cause) (details : Entries) : Traced Fault α :=
  fail (.failure ⟨cause, details⟩)

def built {α : Type} (schema : Schema) : Checked α → Traced Fault α
  | .ok a => pure a
  | .error es => fail (.invalid schema es)

@[simp] theorem result_failWith {α : Type} (cause : Failure.Cause) (details : Entries) :
    (failWith cause details : Traced Fault α).result = .error (.failure ⟨cause, details⟩) := rfl

@[simp] theorem result_built_ok {α : Type} (schema : Schema) (a : α) :
    (built schema (.ok a)).result = .ok a := rfl

@[simp] theorem records_failWith {α : Type} (cause : Failure.Cause) (details : Entries) :
    (failWith cause details : Traced Fault α).records = [] := rfl

@[simp] theorem records_built {α : Type} (schema : Schema) (x : Checked α) :
    (built schema x).records = [] := by
  cases x <;> rfl

end Traced

end SIUnits
