import SIUnits.Fault
import SIUnits.Json.Printer
import SIUnits.Timestamp
import SIUnits.Value.Display

/-! The written forms of a failure: a record and its JSON text, one line for a log, and a chain of
failures each of which was caused by the next. -/
namespace SIUnits.Failure

-- Powers are the core ones, whatever algebra is in scope.
attribute [local instance (2000)] instPowNat

def toRecord (f : Failure) (time : Timestamp) : Entries :=
  [("error_type", .text f.kind.name),
    ("error_code", .text f.code),
    ("message", .text f.message),
    ("token", match f.token with
      | some token => .text token
      | none => .null),
    ("context", .record f.context),
    ("timestamp", .text time.text)]

/-- The most digits with which a whole number is written. -/
def digitLimit : Nat := 4300

/-- The record as JSON in ASCII, if no whole number in it is too long to be written. -/
def toJson (f : Failure) (time : Timestamp) : Except Fault String :=
  if (Value.record (f.toRecord time)).integers.all fun n => n.natAbs < 10 ^ digitLimit then
    .ok (Json.render .ascii (.record (f.toRecord time)))
  else .error .tooManyDigits

/-- The failure as a call of its kind; the message and the code stand as they are. -/
def summary (f : Failure) : String :=
  f.kind.name ++ "(message='" ++ f.message ++ "', error_code='" ++ f.code ++ "', token=" ++
    (match f.token with
      | some token => Text.quoted token
      | none => Value.null.display) ++ ")"

inductive Foreign where
  | value
  | runtime
  | key
deriving DecidableEq

def Foreign.name : Foreign → String
  | .value => "ValueError"
  | .runtime => "RuntimeError"
  | .key => "KeyError"

/-- What such a failure says of itself: a missing key is quoted. -/
def Foreign.display (kind : Foreign) (message : String) : String :=
  match kind with
  | .key => Text.quoted message
  | _ => message

inductive Link where
  | failure (f : Failure)
  | foreign (kind : Foreign) (message : String)

def Link.lines : Link → List String
  | .failure f =>
    ["[" ++ f.code ++ "] " ++ f.message, "  Context: " ++ (Value.record f.context).display]
  | .foreign kind message => [kind.name ++ ": " ++ kind.display message]

/-- A chain of causes, from the one met to the first. -/
def chainText (links : List Link) : String := joinWith "\n" (links.flatMap Link.lines)

def chain (f : Failure) : String := chainText [.failure f]

end SIUnits.Failure
