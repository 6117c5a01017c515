import SIUnits.Failure.Cause

/-! A failure: a cause together with the details that whoever met it adds. The context merges the
two, and names the token unless the details already do. -/
namespace SIUnits

structure Failure where
  cause : Failure.Cause
  details : Entries

namespace Failure

def ofCause (cause : Cause) : Failure := ⟨cause, []⟩

def kind (f : Failure) : Kind := f.cause.kind
def code (f : Failure) : String := f.cause.code
def message (f : Failure) : String := f.cause.message
def token (f : Failure) : Option String := f.cause.token

/-- The details in their order, overwritten and then continued by the cause's own entries, and the
token last if nothing else is under that key. -/
def context (f : Failure) : Entries :=
  let merged := f.details.insertAll f.cause.entries
  match f.token with
  | some token => merged.insertIfNew "token" (.text token)
  | none => merged

def families (f : Failure) : List Family := f.kind.family.withParents

end Failure

end SIUnits
